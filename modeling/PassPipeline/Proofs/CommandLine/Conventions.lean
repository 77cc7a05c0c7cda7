import PassPipeline.CommandLine

/-!
# The conventions of command lines

What the reader of command lines is relied on for (`Reader.Conventional`).  The conventions are
those of the system: `--long` and `-s` for flags, `-abc` for several short forms, `--name=value`
and `--name value` for values, a bare word for the argument that has no form, and `--` before a
word that is to be taken as it is.  Each of them says what one more argument does behind words
that are read without a fault.  They are asked for only where the forms of the arguments can be
told apart (`Command.Sound`).
-/

namespace PassPipeline.CommandLine

/-- The text begins with a dash. -/
def Dashed (text : OsText) : Prop := text.data.toList.head? = some 0x2D

instance (text : OsText) : Decidable (Dashed text) := inferInstanceAs (Decidable (_ = _))

/-- The word for the long form of an argument. -/
def longWord (form : String) : OsText := ("--" ++ form).toUTF8

/-- The word for short forms. -/
def shortWord (forms : List Char) : OsText := ("-" ++ String.ofList forms).toUTF8

/-- The word for the long form of an argument with its value. -/
def valueWord (form value : String) : OsText := ("--" ++ form ++ "=" ++ value).toUTF8

/-- The word behind which words are taken as they are. -/
def dashes : OsText := "--".toUTF8

/-- The arguments of a command can be told apart, and their forms from the other words of a
command line and from the request for help. -/
structure Command.Sound (command : Command) : Prop where
  names : ("help" :: command.arguments.map (·.name)).Nodup
  longs : (command.arguments.filterMap (·.long)).Nodup
  shorts : (command.arguments.filterMap (·.short)).Nodup
  long : ∀ argument ∈ command.arguments, ∀ form ∈ argument.long,
    form ≠ "" ∧ form ≠ "help" ∧ form.toList.head? ≠ some '-' ∧ '=' ∉ form.toList
  short : ∀ argument ∈ command.arguments, ∀ form ∈ argument.short,
    form ≠ 'h' ∧ form ≠ '-' ∧ form ≠ '='
  /-- One argument has no form, and takes a path. -/
  bare : ∃ argument shown, command.arguments.filter (·.isBare) = [argument] ∧
    argument.kind = .path shown

namespace Reader

variable {ε : Type}

/-- The reader finds so much in words behind which other arguments may stand. -/
structure Finds (read : Reader ε) (command : Command) (words : List OsText) (found : Matches) :
    Prop where
  opened : dashes ∉ words
  read_eq : read command words = .ok found

/-- The reader goes by the conventions of command lines. -/
structure Conventional (read : Reader ε) : Prop where
  /-- In no words nothing is found. -/
  nothing {command : Command} (hsound : command.Sound) : read command [] = .ok {}
  /-- A flag that is not there yet may be set by its long form. -/
  long {command : Command} {words : List OsText} {found : Matches} {argument : Argument}
    {form : String} (hsound : command.Sound) (hfinds : read.Finds command words found)
    (hknown : argument ∈ command.arguments) (hflag : argument.kind = .flag)
    (hform : argument.long = some form) (hnew : found.flag argument.name = false) :
    read command (words ++ [longWord form]) = .ok (found.setFlag argument.name)
  /-- The short form of a flag may take the place of its long form. -/
  short {command : Command} {words : List OsText} {found : Matches} {argument : Argument}
    {form : String} {letter : Char} (hsound : command.Sound) (hopened : dashes ∉ words)
    (hknown : argument ∈ command.arguments) (hflag : argument.kind = .flag)
    (hform : argument.long = some form) (hletter : argument.short = some letter)
    (hlong : read command (words ++ [longWord form]) = .ok found) :
    read command (words ++ [shortWord [letter]]) = .ok found
  /-- The short forms of several flags may share a word. -/
  cluster {command : Command} {words : List OsText} {found : Matches} {letters : List Char}
    (hsound : command.Sound) (hopened : dashes ∉ words) (hsome : letters ≠ [])
    (hknown : ∀ letter ∈ letters, ∃ argument ∈ command.arguments,
      argument.kind = .flag ∧ argument.short = some letter)
    (hsingle : read command (words ++ letters.map fun letter => shortWord [letter]) = .ok found) :
    read command (words ++ [shortWord letters]) = .ok found
  /-- A text may be given in the word that names its argument, behind an equals sign. -/
  attached {command : Command} {words : List OsText} {found : Matches} {argument : Argument}
    {form shown value : String} (hsound : command.Sound) (hfinds : read.Finds command words found)
    (hknown : argument ∈ command.arguments) (htext : argument.kind = .text shown)
    (hform : argument.long = some form) (hnew : found.text argument.name = none)
    (hsome : value ≠ "") :
    read command (words ++ [valueWord form value]) = .ok (found.setText argument.name value)
  /-- It may as well follow in a word of its own, unless that begins with a dash. -/
  apart {command : Command} {words : List OsText} {found : Matches} {argument : Argument}
    {form shown value : String} (hsound : command.Sound) (hopened : dashes ∉ words)
    (hknown : argument ∈ command.arguments) (htext : argument.kind = .text shown)
    (hform : argument.long = some form) (hsome : value ≠ "") (hplain : ¬ Dashed value.toUTF8)
    (hattached : read command (words ++ [valueWord form value]) = .ok found) :
    read command (words ++ [longWord form, value.toUTF8]) = .ok found
  /-- A word that does not begin with a dash is the value of the argument that has no form. -/
  bare {command : Command} {words : List OsText} {found : Matches} {argument : Argument}
    {word : OsText} (hsound : command.Sound) (hfinds : read.Finds command words found)
    (hknown : argument ∈ command.arguments) (hbare : argument.isBare = true)
    (hnew : found.path argument.name = none) (hsome : word.isEmpty = false)
    (hplain : ¬ Dashed word) :
    read command (words ++ [word]) = .ok (found.setPath argument.name word)
  /-- So is any word behind two dashes. -/
  verbatim {command : Command} {words : List OsText} {found : Matches} {argument : Argument}
    {word : OsText} (hsound : command.Sound) (hfinds : read.Finds command words found)
    (hknown : argument ∈ command.arguments) (hbare : argument.isBare = true)
    (hnew : found.path argument.name = none) (hsome : word.isEmpty = false) :
    read command (words ++ [dashes, word]) = .ok (found.setPath argument.name word)

end Reader

end PassPipeline.CommandLine
