import PassPipeline.Event
import PassPipeline.Pattern.Reader

/-!
# Which messages are shown

A filter is a list of directives between commas.  A directive is a level, a topic, or both
with an equals sign between them; it may also name a span of the program and a value that
a message carries, in brackets, and say by a number or a pattern what the value is.  A
topic stands for every topic that begins with it.

Of the directives that are about a message the most specific one decides: the one with the
longest topic, then one that names a value.  Of two directives about the same the later one
decides.  A message that no directive is about is not shown.  This program has no spans, so
a directive that names one is never about a message, nor is one that says what a value is.
-/

namespace PassPipeline

/-- A directive. -/
structure Directive where
  /-- The beginning of the topics that it is about, if it names one. -/
  topic : Option String := none
  /-- The span that it names. -/
  span : Option String := none
  /-- The name of the value that a message has to carry, and whether the directive says
  something about the value itself. -/
  field : Option (String × Bool) := none
  /-- The rank of the least grave messages that it shows; zero if it shows none. -/
  rank : Nat := Level.trace.rank
  deriving DecidableEq, Repr

namespace Directive

/-- The words for levels, with their ranks. -/
def words : List (String × Nat) :=
  [("off", 0), ("error", 1), ("warn", 2), ("info", 3), ("debug", 4), ("trace", 5)]

/-- The rank that a word or a number stands for.  No word at all stands for errors. -/
def rank? (word : String) : Option Nat :=
  match Text.word? word.toList with
  | some value => if value ≤ 5 then some value else none
  | none => if word.isEmpty then some 1 else words.lookup word.toLower

/-! ## Values -/

/-- Does the text say what a value is?  It does if it is a number or a pattern. -/
def isValue (text : String) : Bool := Text.isNumber text || (Pattern.parse? text).isSome

/-! ## Reading -/

/-- What is being read of a directive, and where it began. -/
inductive Stage where
  | start
  /-- A level or a topic. -/
  | word (began : Nat)
  | span (began : Nat)
  | field (began : Nat)
  /-- The fields are at an end. -/
  | fields
  /-- The brackets are at an end. -/
  | brackets
  | level (began : Nat)
  deriving DecidableEq, Repr

/-- The characters that begin after a number of bytes. -/
def dropBytes : Nat → List Char → List Char
  | 0, text => text
  | _ + 1, [] => []
  | count + 1, c :: rest => dropBytes (count + 1 - c.utf8Size) rest

/-- The characters that begin before a number of bytes. -/
def takeBytes : Nat → List Char → List Char
  | 0, _ => []
  | _ + 1, [] => []
  | count + 1, c :: rest => c :: takeBytes (count + 1 - c.utf8Size) rest

/-- The characters, each with the number of bytes before it. -/
def withPlaces (place : Nat) : List Char → List (Char × Nat)
  | [] => []
  | c :: rest => (c, place) :: withPlaces (place + c.utf8Size) rest

/-- The characters from a place on. -/
def cutFrom (text : List Char) (began : Nat) : String := String.ofList (dropBytes began text)

/-- The characters between two places. -/
def cut (text : List Char) (began ended : Nat) : String :=
  String.ofList (takeBytes (ended - began) (dropBytes began text))

/-- May a directive begin with the character?  A bracket may stand there too. -/
def isBeginning (c : Char) : Bool := c = '-' || c = ':' || c = '_' || Text.isAlphanumeric c

/-- The field that a text between braces describes: a name, and what the value is after an
equals sign.  Another equals sign ends the description. -/
def fieldOf? (text : String) : Option (String × Bool) :=
  match text.splitOn "=" with
  | name :: value :: _ => if isValue value then some (name, true) else none
  | _ => if text.isEmpty then none else some (text, false)

/-- Reads one character, at its place. -/
def step (text : List Char) (state : Directive × Stage) (next : Char × Nat) :
    Option (Directive × Stage) :=
  let (directive, stage) := state
  let (c, place) := next
  match stage with
  | .start =>
    if c = '[' then some (directive, .span (place + 1))
    else if isBeginning c then some (directive, .word place)
    else none
  | .word began =>
    if c = '=' then some ({ directive with topic := cut text began place }, .level (place + 1))
    else if c = '[' then
      some ({ directive with topic := cut text began place }, .span (place + 1))
    else some (directive, .word began)
  | .span began =>
    if c = ']' then some ({ directive with span := cut text began place }, .brackets)
    else if c = '\x7b' then
      let name := cut text began place
      some ({ directive with span := if name.isEmpty then none else some name },
        .field (place + 1))
    else some (directive, .span began)
  | .field began =>
    if c = '\x7d' then
      (fieldOf? (cut text began place)).map fun field =>
        ({ directive with field := some field }, .fields)
    else some (directive, .field began)
  | .fields => if c = ']' then some (directive, .brackets) else none
  | .brackets => if c = '=' then some (directive, .level (place + 1)) else none
  | .level began => some (directive, .level began)

/-- The directive when all characters have been read. -/
def finish? (text : List Char) : Directive × Stage → Option Directive
  | (directive, .word began) =>
    let word := cutFrom text began
    match rank? word with
    | some rank => some { directive with rank, topic := none }
    | none => some { directive with topic := some word }
  | (directive, .level began) =>
    let word := cutFrom text began
    if word.isEmpty then some directive
    else (rank? word).map fun rank => { directive with rank }
  | (directive, .brackets) => some directive
  | _ => none

/-- The text without the blanks at its ends. -/
def trim (text : List Char) : List Char :=
  ((text.dropWhile Text.isBlank).reverse.dropWhile Text.isBlank).reverse

/-- Reads a directive.  The places to cut it are found without the blanks at its ends; it is
cut there with them. -/
def parse? (text : String) : Option Directive := do
  let places := withPlaces 0 (trim text.toList)
  finish? text.toList (← places.foldlM (step text.toList) ({}, .start))

/-! ## Meaning -/

/-- Can the directive be about a message at all? -/
def isStatic (directive : Directive) : Bool :=
  directive.span.isNone && (directive.field.map (·.2)) != some true

/-- Does a message carry a value of that name?  Every message carries its wording. -/
def carries (message : Message) (name : String) : Bool :=
  name == "message" || (message.detail.map (·.1)) == some name

/-- Is the directive about a message? -/
def concerns (directive : Directive) (message : Message) : Bool :=
  (directive.topic.all (message.topic.path.startsWith ·)) &&
    (directive.field.all fun field => carries message field.1)

/-- Is the first directive at least as specific as the second?  Only directives about the
same message are compared, so topics of the same length are the same. -/
def isAsSpecific (first second : Directive) : Bool :=
  let size (directive : Directive) : Nat := (directive.topic.map (·.utf8ByteSize + 1)).getD 0
  if size first ≠ size second then size second < size first
  else
    match first.field, second.field with
    | _, none => true
    | none, some _ => false
    | some (name, _), some (other, _) => other ≤ name

end Directive

/-- A filter of messages. -/
structure LogFilter where
  /-- Its directives, in order. -/
  directives : List Directive
  deriving DecidableEq, Repr

namespace LogFilter

/-- The filter that shows messages up to a level. -/
def upTo (level : Level) : LogFilter := ⟨[{ rank := level.rank }]⟩

/-- Reads a filter. -/
def parse? (text : String) : Option LogFilter :=
  LogFilter.mk <$> ((text.splitOn ",").filter (!·.isEmpty)).mapM Directive.parse?

/-- The directive that decides about a message. -/
def deciding? (filter : LogFilter) (message : Message) : Option Directive :=
  (filter.directives.filter fun directive =>
      directive.isStatic && directive.concerns message).foldl
    (fun best directive =>
      match best with
      | none => some directive
      | some other => if directive.isAsSpecific other then some directive else some other)
    none

/-- Is a message shown? -/
def shows (filter : LogFilter) (message : Message) : Bool :=
  match filter.deciding? message with
  | some directive => message.level.rank ≤ directive.rank
  | none => false

end LogFilter

end PassPipeline
