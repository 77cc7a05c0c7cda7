import PassPipeline.CommandLine
import PassPipeline.Text.Terminal

/-!
# Reading words

A reader of command lines that goes by the customs of the system.  A command line is read word
by word.  A word that begins with two dashes is the long form of an argument, a word that
begins with one dash is made up of short forms, and any other word is the value of the argument
before it, if that one lacks its value, or else of the argument that stands by itself.  After a
word of two dashes alone every word is taken as it is.

A value is looked at when the next argument comes or when the words are at an end, so of
two faults the one that is found first need not be the one that stands first.

Every command knows one argument more, which asks for help.
-/

namespace PassPipeline.CommandLine

/-! ## Arguments -/

namespace Argument

/-- The wish for help. -/
def help : Argument where
  name := "help"
  long := some "help"
  short := some 'h'
  description := "Print help"

/-- The name under which the value is shown, if there is one. -/
def value? (argument : Argument) : Option String :=
  match argument.kind with
  | .flag => none
  | .path shown => some shown
  | .text shown => some shown

/-- An argument as messages show it. -/
def display (argument : Argument) : String :=
  match argument.long, argument.value? with
  | some long, some value => "--" ++ long ++ " <" ++ value ++ ">"
  | some long, none => "--" ++ long
  | none, some value => "[" ++ value ++ "]"
  | none, none => argument.name

/-- An argument with its forms, as the help shows it. -/
def forms (argument : Argument) : String :=
  match argument.long with
  | none => argument.display
  | some _ =>
    (match argument.short with
    | some short => "-" ++ short.toString ++ ", "
    | none => "    ") ++ argument.display

end Argument

namespace Command

/-- All arguments.  Where two have the same form, the first counts. -/
def all (command : Command) : List Argument := command.arguments ++ [.help]

/-- The argument with that long form. -/
def findLong? (command : Command) (form : String) : Option Argument :=
  command.all.find? (·.long == some form)

/-- The argument with that short form. -/
def findShort? (command : Command) (form : Char) : Option Argument :=
  command.all.find? (·.short == some form)

/-- The argument that stands by itself. -/
def bare? (command : Command) : Option Argument := command.arguments.find? (·.isBare)

/-! ## Help -/

/-- The line that shows how the command is called. -/
def usage (command : Command) : String := "Usage: " ++ command.name ++ " [OPTIONS] [INPUT]"

/-- Lines of help in two columns. -/
def columns (arguments : List Argument) : String :=
  let width := (arguments.map (·.forms.length)).foldl max 0
  String.join (arguments.map fun argument =>
    "  " ++ argument.forms ++
      String.ofList (List.replicate (width - argument.forms.length + 2) ' ') ++
      Text.Terminal.plain argument.description ++ "\n")

/-- The help. -/
def helpText (command : Command) : String :=
  let (bare, optional) := command.all.partition (·.long.isNone)
  command.about ++ "\n\n" ++ command.usage ++ "\n\nArguments:\n" ++ columns bare ++
    "\nOptions:\n" ++ columns optional

end Command

/-! ## Faults -/

/-- A fault in a command line. -/
inductive Misuse where
  /-- Nothing is known of this word. -/
  | unknown (word : String)
  /-- The argument lacks its value. -/
  | missingValue (argument : String)
  /-- The value of an argument is no text. -/
  | notText
  /-- The argument stands there twice. -/
  | repeated (argument : String)
  /-- The argument has a value and should have none. -/
  | excessValue (argument value : String)
  deriving DecidableEq, Repr

/-- The wording of a fault. -/
def Misuse.message : Misuse → String
  | .unknown word => "unexpected argument '" ++ Text.Terminal.quotable word ++ "' found"
  | .missingValue argument =>
    "a value is required for '" ++ argument ++ "' but none was supplied"
  | .notText => "invalid UTF-8 was detected in one or more arguments"
  | .repeated argument => "the argument '" ++ argument ++ "' cannot be used multiple times"
  | .excessValue argument value =>
    "unexpected value '" ++ Text.Terminal.quotable value ++ "' for '" ++ argument ++
      "' found; no more were expected"

/-- What is written of a fault. -/
def Misuse.report (command : Command) (fault : Misuse) : String :=
  "error: " ++ fault.message ++ "\n\n" ++ command.usage ++
    "\n\nFor more information, try '--help'.\n"

/-- Why a command line is not carried out. -/
inductive Stop where
  /-- It asks for help. -/
  | help
  /-- It has a fault. -/
  | misuse (fault : Misuse)
  deriving DecidableEq, Repr

/-! ## Words -/

/-- A command line of which some words have been read. -/
structure Progress where
  /-- The names of the flags that have been read. -/
  flags : List String := []
  /-- The paths that have been looked at, by the names of their arguments. -/
  paths : List (String × OsText) := []
  /-- The texts that have been looked at, likewise. -/
  texts : List (String × String) := []
  /-- An argument whose value has not been looked at, and may still have to come. -/
  pending : Option (Argument × Option OsText) := none
  /-- Has the value of the argument been named that stands by itself? -/
  named : Bool := false
  /-- Are the words to be taken as they are? -/
  verbatim : Bool := false

namespace Progress

/-- Refuses a command line for a fault. -/
def refuse {α : Type} (fault : Misuse) : Except Stop α := .error (.misuse fault)

/-- Looks at the value of an argument. -/
def look (progress : Progress) (argument : Argument) (value : OsText) : Except Stop Progress :=
  match argument.kind with
  | .flag => refuse (.excessValue argument.display (Text.Utf8.lossy value))
  | .path _ =>
    if value.isEmpty then refuse (.missingValue argument.display)
    else if (progress.paths.lookup argument.name).isSome then
      refuse (.repeated argument.display)
    else .ok { progress with paths := (argument.name, value) :: progress.paths }
  | .text _ =>
    match String.fromUTF8? value with
    | none => refuse .notText
    | some text =>
      if (progress.texts.lookup argument.name).isSome then refuse (.repeated argument.display)
      else .ok { progress with texts := (argument.name, text) :: progress.texts }

/-- Looks at the value that has not been looked at. -/
def settle (progress : Progress) : Except Stop Progress :=
  let looked := { progress with pending := none }
  match progress.pending with
  | none => .ok looked
  | some (argument, none) => refuse (.missingValue argument.display)
  | some (argument, some value) => looked.look argument value

/-- Takes up an argument without a value. -/
def flag (progress : Progress) (argument : Argument) : Except Stop Progress := do
  let settled ← progress.settle
  if argument = .help then .error .help
  else if settled.flags.contains argument.name then refuse (.repeated argument.display)
  else return { settled with flags := argument.name :: settled.flags }

/-- Takes up a long form, and the value that is attached to it. -/
def long (command : Command) (progress : Progress) (form : String) (attached : Option OsText) :
    Except Stop Progress :=
  match command.findLong? form with
  | none => refuse (.unknown ("--" ++ form))
  | some argument =>
    match argument.value?, attached with
    | none, none => progress.flag argument
    | none, some value => refuse (.excessValue argument.display (Text.Utf8.lossy value))
    | some _, none => do return { ← progress.settle with pending := some (argument, none) }
    | some _, some value => do (← progress.settle).look argument value

/-- Takes up short forms. -/
def short (command : Command) (progress : Progress) (form : Char) : Except Stop Progress :=
  match command.findShort? form with
  | none => refuse (.unknown ("-" ++ form.toString))
  | some argument => progress.flag argument

/-- Takes up the value of the argument that stands by itself. -/
def bare (command : Command) (progress : Progress) (word : OsText) : Except Stop Progress :=
  match command.bare?, progress.named with
  | some argument, false => do
    return { ← progress.settle with pending := some (argument, some word), named := true }
  | _, _ => refuse (.unknown (Text.Utf8.lossy word))

/-- Takes up a word that is no form of an argument. -/
def plain (command : Command) (progress : Progress) (word : OsText) : Except Stop Progress :=
  match progress.pending with
  | some (argument, none) => .ok { progress with pending := some (argument, some word) }
  | _ => progress.bare command word

/-- Takes up the bytes of a word after two dashes. -/
def dashed (command : Command) (progress : Progress) (rest : List UInt8) :
    Except Stop Progress :=
  let (form, value) := rest.span (· ≠ 0x3D)
  match String.fromUTF8? ⟨form.toArray⟩, value with
  | none, _ => refuse (.unknown (Text.Utf8.lossy ⟨(0x2D :: 0x2D :: rest).toArray⟩))
  | some form, 0x3D :: value => progress.long command form (some ⟨value.toArray⟩)
  | some form, _ => progress.long command form none

/-- Takes up the bytes of a word after one dash. -/
def clustered (command : Command) (progress : Progress) (rest : List UInt8) :
    Except Stop Progress :=
  match String.fromUTF8? ⟨rest.toArray⟩ with
  | none => refuse (.unknown (Text.Utf8.lossy ⟨(0x2D :: rest).toArray⟩))
  | some forms => forms.toList.foldlM (short command) progress

/-- Takes up a word. -/
def read (command : Command) (progress : Progress) (word : OsText) : Except Stop Progress :=
  if progress.verbatim then progress.bare command word
  else
    match word.data.toList with
    | [0x2D, 0x2D] => .ok { progress with verbatim := true }
    | 0x2D :: 0x2D :: rest => progress.dashed command rest
    | 0x2D :: b :: rest => progress.clustered command (b :: rest)
    | _ => progress.plain command word

/-- What was found, as far as it has been looked at. -/
def found (progress : Progress) : Matches where
  flag name := progress.flags.contains name
  path name := progress.paths.lookup name
  text name := progress.texts.lookup name

end Progress

/-- Reads the words of a command line. -/
def read : Reader Stop := fun command words => do
  return (← (← words.foldlM (Progress.read command) {}).settle).found

end PassPipeline.CommandLine
