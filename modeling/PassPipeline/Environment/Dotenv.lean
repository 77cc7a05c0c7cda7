import PassPipeline.Environment
import PassPipeline.Text.Alphanumeric
import PassPipeline.Text.Utf8

/-!
# Files of variables

A file of variables has one assignment to a record.  A record is a line, or several
lines if a quotation reaches over their ends; a hash sign after a blank begins a comment,
which ends the record.  A value may be quoted, may escape characters, and may refer to
the environment and to the variables assigned before it.

The assignments take effect one by one, and only for names that have no value yet.  The
first record that is no assignment ends the reading; what was assigned before it stays.
-/

namespace PassPipeline.Dotenv

/-! ## Records -/

/-- Where the scan for the end of a record stands. -/
inductive Scan where
  /-- Outside quotations. -/
  | plain
  /-- Outside quotations, after a blank. -/
  | afterBlank
  /-- Outside quotations, after a backslash. -/
  | escaped
  /-- Between quotes of the given sort. -/
  | inside (quote : Char)
  /-- Between quotes of the given sort, after a backslash. -/
  | insideEscaped (quote : Char)
  deriving DecidableEq, Repr

/-- The scan after a character outside quotations. -/
def Scan.start (blank : Scan) (c : Char) : Scan :=
  if c = '\\' then .escaped
  else if c = '"' ∨ c = '\'' then .inside c
  else if Text.isBlank c ∧ c ≠ '\n' ∧ c ≠ '\r' then blank
  else .plain

/-- The scan after a character, unless a comment begins there.  A blank after a blank
does not count as one. -/
def Scan.step? : Scan → Char → Option Scan
  | .plain, c => some (start .afterBlank c)
  | .afterBlank, c => if c = '#' then none else some (start .plain c)
  | .escaped, _ => some .plain
  | .inside quote, c =>
    if c = '\\' then some (.insideEscaped quote)
    else if c = quote then some .plain
    else some (.inside quote)
  | .insideEscaped quote, _ => some (.inside quote)

/-- Scans a line.  The outcome is the scan at its end, or what stands before the
comment. -/
def scanLine (scan : Scan) (seen : List Char) : List Char → Scan ⊕ List Char
  | [] => .inl scan
  | c :: rest =>
    match scan.step? c with
    | none => .inr seen.reverse
    | some scan => scanLine scan (c :: seen) rest

/-- Text without the line break at its end. -/
def chomp (text : List Char) : List Char :=
  match text.reverse with
  | '\n' :: '\r' :: rest => rest.reverse
  | '\n' :: rest => rest.reverse
  | _ => text

/-- What reading a file comes upon: a record, or something that ends the reading. -/
inductive Record where
  | line (text : List Char)
  | fault
  deriving Repr

/-- Is the text a comment from its first character on, blanks apart? -/
def isComment (text : List Char) : Bool := (text.dropWhile Text.isBlank).head? == some '#'

/-- Groups lines into records.  A line that is no text is given as nothing. -/
def records (scan : Scan) (begun : List Char) : List (Option (List Char)) → List Record
  | [] => if scan = .plain then [] else [.fault]
  | none :: _ => [.fault]
  | some line :: rest =>
    let text := begun ++ line
    if isComment text then records .plain [] rest
    else
      match scanLine scan [] line with
      | .inr before => .line (begun ++ before) :: records .plain [] rest
      | .inl .plain => .line (chomp text) :: records .plain [] rest
      | .inl scan => records scan text rest

/-- Splits bytes after each line feed. -/
def splitLines (begun : List UInt8) : List UInt8 → List (List UInt8)
  | [] => if begun.isEmpty then [] else [begun.reverse]
  | b :: rest =>
    if b = 0x0A then (b :: begun).reverse :: splitLines [] rest else splitLines (b :: begun) rest

/-- The bytes without the mark of their encoding. -/
def withoutMark : List UInt8 → List UInt8
  | 0xEF :: 0xBB :: 0xBF :: rest => rest
  | bytes => bytes

/-- The lines of a file. -/
def lines (bytes : ByteArray) : List (Option (List Char)) :=
  (splitLines [] (withoutMark bytes.toList)).map fun line =>
    (String.fromUTF8? ⟨line.toArray⟩).map String.toList

/-! ## Values -/

/-- How a reference to a variable has begun. -/
inductive Reference where
  | none
  /-- After a dollar sign. -/
  | bare
  /-- After a dollar sign and an opening brace. -/
  | braced
  deriving DecidableEq, Repr

/-- The state of the reading of a value. -/
structure Reading where
  /-- The quotation that is open. -/
  quote : Option Char := none
  /-- Was the last character a backslash? -/
  escaped : Bool := false
  /-- Has the value ended? -/
  ended : Bool := false
  /-- The reference that is open. -/
  reference : Reference := .none
  /-- The name in the reference, newest character first. -/
  name : List Char := []
  /-- The value so far, newest character first. -/
  output : List Char := []

/-- What the next character of a value leads to. -/
inductive Outcome where
  | go (reading : Reading)
  | stop (reading : Reading)
  | fault

namespace Reading

/-- Adds a character to the value. -/
def push (reading : Reading) (c : Char) : Reading := { reading with output := c :: reading.output }

/-- Closes a reference: adds what it refers to. -/
def resolve (lookup : String → String) (reading : Reading) : Reading :=
  { reading with
    output := (lookup (String.ofList reading.name.reverse)).toList.reverse ++ reading.output
    name := []
    reference := .none }

/-- Reads a character of a reference. -/
def stepReference (lookup : String → String) (reading : Reading) (c : Char) : Reading :=
  if Text.isAlphanumeric c then { reading with name := c :: reading.name }
  else if reading.reference = .braced then
    if c = '\x7d' then reading.resolve lookup else { reading with name := c :: reading.name }
  else if c = '\x7b' ∧ reading.name = [] then { reading with reference := .braced }
  else if c = '$' then { reading.resolve lookup with reference := .bare }
  else (reading.resolve lookup).push c

/-- Reads a character after a backslash. -/
def stepEscaped (reading : Reading) (c : Char) : Outcome :=
  let unescaped := { reading with escaped := false }
  if c = '\\' ∨ c = '\'' ∨ c = '"' ∨ c = '$' ∨ c = ' ' then .go (unescaped.push c)
  else if c = 'n' then .go (unescaped.push '\n')
  else .fault

/-- Reads a character outside quotations. -/
def stepPlain (reading : Reading) (c : Char) : Reading :=
  if c = '\'' ∨ c = '"' then { reading with quote := some c }
  else if c = '\\' then { reading with escaped := true }
  else if c = ' ' ∨ c = '\t' then { reading with ended := true }
  else reading.push c

/-- Reads a character between double quotes. -/
def stepQuoted (reading : Reading) (c : Char) : Reading :=
  if c = '"' then { reading with quote := none }
  else if c = '\\' then { reading with escaped := true }
  else reading.push c

/-- Reads a character of a value. -/
def step (lookup : String → String) (reading : Reading) (c : Char) : Outcome :=
  if reading.ended then
    if c = ' ' ∨ c = '\t' then .go reading
    else if c = '#' then .stop reading
    else .fault
  else if reading.escaped then reading.stepEscaped c
  else if reading.quote = some '\'' then
    .go (if c = '\'' then { reading with quote := none } else reading.push c)
  else if reading.reference ≠ .none then .go (reading.stepReference lookup c)
  else if c = '$' then .go { reading with reference := .bare }
  else if reading.quote = some '"' then .go (reading.stepQuoted c)
  else .go (reading.stepPlain c)

/-- The value, at its end.  A quotation or a braced reference must not be open. -/
def finish (lookup : String → String) (reading : Reading) : Option String :=
  if reading.reference = .braced ∨ reading.quote.isSome then none
  else some (String.ofList (reading.resolve lookup).output.reverse)

end Reading

/-- Reads a value. -/
def readValue (lookup : String → String) (reading : Reading) : List Char → Option String
  | [] => reading.finish lookup
  | c :: rest =>
    match reading.step lookup c with
    | .go reading => readValue lookup reading rest
    | .stop reading => reading.finish lookup
    | .fault => none

/-! ## Assignments -/

/-- What a record says. -/
inductive Assignment where
  /-- It says nothing. -/
  | nothing
  /-- It gives a value, or the absence of one, to a name. -/
  | assign (name : String) (value : Option String)
  /-- It is no assignment. -/
  | fault

/-- What is left after blanks. -/
def skipBlanks (text : List Char) : List Char := text.dropWhile Text.isBlank

/-- Text without the blanks at its end. -/
def trimEnd (text : List Char) : List Char := (text.reverse.dropWhile Text.isBlank).reverse

/-- Does a name go on with this character? -/
def isNameChar (c : Char) : Bool := c.isAlphanum || c = '_' || c = '.'

/-- Reads a name and the blanks after it. -/
def readName : List Char → Option (String × List Char)
  | [] => none
  | c :: rest =>
    if c.isAlpha || c = '_' then
      let (name, rest) := (c :: rest).span isNameChar
      some (String.ofList name, skipBlanks rest)
    else none

/-- Reads what follows a name: an equals sign and a value. -/
def readAssigned (lookup : String → String) (name : String) : List Char → Assignment
  | '=' :: rest =>
    match skipBlanks rest with
    | [] => .assign name none
    | '#' :: _ => .assign name none
    | value =>
      match readValue lookup {} value with
      | some value => .assign name (some value)
      | none => .fault
  | _ => .fault

/-- Reads a record.  The word `export` before a name is passed over, but is a name
itself if an equals sign follows. -/
def readRecord (lookup : String → String) (text : List Char) : Assignment :=
  let line := skipBlanks (trimEnd text)
  if line.isEmpty || line.head? == some '#' then .nothing
  else
    match readName line with
    | none => .fault
    | some (name, rest) =>
      if name = "export" ∧ rest.head? ≠ some '=' then
        match readName rest with
        | none => .fault
        | some (name, rest) => readAssigned lookup name rest
      else readAssigned lookup name rest

/-- The value that a name refers to: that of the environment, or else the one assigned
last. -/
def lookup (environment : Environment) (assigned : List (String × Option String))
    (name : String) : String :=
  match environment.get? name with
  | some value => value
  | none => ((assigned.lookup name).join).getD ""

/-- Carries out the records, given what was assigned before, the latest first. -/
def assignAll (assigned : List (String × Option String)) (environment : Environment) :
    List Record → Environment
  | [] => environment
  | .fault :: _ => environment
  | .line text :: rest =>
    match readRecord (lookup environment assigned) text with
    | .nothing => assignAll assigned environment rest
    | .fault => environment
    | .assign name value =>
      assignAll ((name, value) :: assigned) (environment.define name (value.getD "")) rest

/-- The environment after a file of variables was read. -/
def load (environment : Environment) (bytes : ByteArray) : Environment :=
  assignAll [] environment (records .plain [] (lines bytes))

end PassPipeline.Dotenv
