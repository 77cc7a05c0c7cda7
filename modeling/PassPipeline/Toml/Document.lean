import PassPipeline.Toml.Moment
import PassPipeline.Toml.Number
import PassPipeline.Toml.Quoted

/-!
# Reading documents

A document is read line by line.  A line is empty, a heading, or an assignment of a value
to dotted keys; the lines then build up the tables, from the top to the bottom.

Values may lie in each other, and keys have parts, up to a fixed depth.
-/

namespace PassPipeline.Toml

open Text (Reader)
open Text.Reader

/-- Neither keys nor values may be that deep. -/
def depthBound : Nat := 80

/-! ## Keys -/

/-- May the character stand in a key without quotes? -/
def isBare (c : Char) : Bool := c.isAlphanum || c = '_' || c = '-'

/-- Takes a key without quotes. -/
def bareKey : Reader String := do
  let first ← satisfy isBare
  return String.ofList (first :: (← takeWhile isBare))

/-- Takes one part of a key, with the blanks around it. -/
def keyPart : Reader String := do
  blanks
  let part ← basic <|> literal <|> bareKey
  blanks
  return part

/-- Takes a key. -/
def key : Reader (List String) := do
  let parts ← separated keyPart (exactly ".")
  if parts.isEmpty || depthBound ≤ parts.length then failure else return parts

/-! ## Values -/

/-- Takes a value that holds no other value. -/
def scalar : Reader Item :=
  .text <$> quotedText <|> (exactly "true" *> pure (.boolean true)) <|>
    (exactly "false" *> pure (.boolean false)) <|> (moment *> pure .datetime) <|> number

/-- Takes values between brackets, on any number of lines, each but perhaps the last with
a comma behind it. -/
def array (value : Reader Item) : Reader Item := do
  exactly "["
  let items ← separated (filler *> value <* filler) (exactly ",")
  unless items.isEmpty do
    let _ ← optional (exactly ",")
  filler
  exactly "]"
  return .array items

/-- Takes a key and its value. -/
def pair (value : Reader Item) : Reader (List String × Item) := do
  let path ← key
  exactly "="
  blanks
  return (path, ← value)

/-- The entries that keys with values make up. -/
def Entries.ofPairs? (pairs : List (List String × Item)) : Option Entries :=
  pairs.foldlM (fun entries pair => entries.assign .heading pair.2 pair.1) []

/-- Takes keys with values between braces. -/
def inlineTable (value : Reader Item) : Reader Item := do
  exactly "\x7b"
  let pairs ← separated (pair value <* blanks) (exactly ",")
  blanks
  exactly "\x7d"
  match Entries.ofPairs? pairs with
  | some entries => return .table .braces entries
  | none => failure

/-- Takes a value in which other values lie at most so deep. -/
def value : Nat → Reader Item
  | 0 => scalar
  | depth + 1 => array (value depth) <|> inlineTable (value depth) <|> scalar

/-! ## Lines -/

/-- A line of a document. -/
inductive Line where
  /-- Nothing but blanks and a comment. -/
  | empty
  /-- A heading, single or repeated. -/
  | heading (repeated : Bool) (path : List String)
  /-- A value for a key. -/
  | assignment (path : List String) (item : Item)

/-- Takes a heading. -/
def heading : Reader Line :=
  (.heading true <$> (exactly "[[" *> key <* exactly "]]")) <|>
    (.heading false <$> (exactly "[" *> key <* exactly "]"))

/-- Takes an assignment. -/
def assignment : Reader Line := do
  let (path, item) ← pair (value (depthBound - 1))
  return .assignment path item

/-- Takes a line that says something. -/
def statement : Reader Line := (heading <|> assignment) <* trailing

/-- Takes a line. -/
def line : Reader Line := do
  blanks
  ((comment *> lineEnd <|> newline) *> pure .empty) <|> statement

/-- Takes the lines of a document. -/
def lines : Reader (List Line) := do
  let _ ← optional (exactly "\uFEFF")
  many line <* blanks

/-! ## Tables -/

/-- A document of which the lines up to some heading have been read, and the lines under
that heading are being read. -/
structure Draft where
  /-- What the lines before the heading say. -/
  finished : Entries := []
  /-- Is the heading a repeated one? -/
  repeated : Bool := false
  /-- The keys of the heading, or none at the start of the document. -/
  path : List String := []
  /-- The table of the heading. -/
  table : Entries := []

namespace Draft

/-- The document if nothing more comes. -/
def entries (draft : Draft) : Entries :=
  draft.finished.close draft.repeated draft.table draft.path

/-- Takes up the next line. -/
def add (draft : Draft) : Line → Option Draft
  | .empty => some draft
  | .assignment path item =>
    (draft.table.assign .heading item path).map fun table => { draft with table }
  | .heading false path =>
    (draft.entries.openTable path).map fun table =>
      { finished := draft.entries, path, table }
  | .heading true path =>
    if draft.entries.opensTables path then
      some { finished := draft.entries, repeated := true, path }
    else none

end Draft

/-- The table that a document describes. -/
def parse (text : String) : Option Entries := do
  let draft ← (← lines.whole? text).foldlM Draft.add {}
  return draft.entries

end PassPipeline.Toml
