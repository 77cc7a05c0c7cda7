import PassPipeline.Pattern
import PassPipeline.Text.Alphanumeric
import PassPipeline.Text.Number
import PassPipeline.Text.Reader

/-!
# The notation of patterns

A pattern is made up of characters that stand for themselves, escapes after a backslash,
classes in brackets, groups in parentheses, bars between alternatives, and signs of
repetition after a part.  A count of repetitions in braces has no place here, because a
closing brace ends the description of a field.

In the spaced mode, blanks and remarks after a number sign are passed over between parts.
The reader is given how deep groups and brackets may still nest.
-/

namespace PassPipeline.Pattern

open Text (Reader)
open Text.Reader

/-! ## Blanks and remarks -/

/-- What is left after blanks and remarks, which may begin inside a remark. -/
def afterGap (inRemark : Bool) : List Char → List Char
  | [] => []
  | c :: rest =>
    if inRemark then afterGap (c ≠ '\n') rest
    else if Text.isBlank c then afterGap false rest
    else if c = '#' then afterGap true rest
    else c :: rest

/-- Takes blanks and remarks in the spaced mode. -/
def gap (spaced : Bool) : Reader Unit := fun input =>
  some ((), if spaced then afterGap false input else input)

/-- The next character that counts.  A remark counts from its first character on. -/
def nextVisible? (spaced : Bool) (input : List Char) : Option Char :=
  if spaced then
    match input.dropWhile Text.isBlank with
    | '#' :: remark => (remark.dropWhile Text.isBlank).head?
    | visible => visible.head?
  else input.head?

/-! ## Escapes -/

/-- Is the character a sign that stands for itself after a backslash? -/
def isSign (c : Char) : Bool := c.toNat < 0x80 && !c.isAlphanum && c ≠ '<' && c ≠ '>'

/-- What a character after a backslash stands for. -/
def ofEscaped? (c : Char) : Option Pattern :=
  if c ∈ ['d', 's', 'w'] then some (.shorthand false)
  else if c ∈ ['D', 'S', 'W'] then some (.shorthand true)
  else if c ∈ ['A', 'z'] then some .edge
  else if c ∈ ['b', 'B', '<', '>'] then some .wordEdge
  else
    match [('a', '\x07'), ('f', '\x0c'), ('t', '\t'), ('n', '\n'), ('r', '\r'),
      ('v', '\x0b')].lookup c with
    | some control => some (.literal ⟨control, false⟩)
    | none => if isSign c then some (.literal ⟨c, false⟩) else none

/-- Takes a number of hexadecimal digits, which write a character. -/
def hexadecimal (spaced : Bool) (count : Nat) : Reader Char := do
  let digits ← (List.replicate count ()).mapM fun _ => do
    gap spaced
    satisfy (Text.isDigitOf 16)
  let code := (Text.digits? 16 digits).getD 0
  if code.isValidChar then return Char.ofNat code else failure

/-- Takes what follows a backslash. -/
def escape (spaced : Bool) : Reader Pattern := do
  match ← character with
  | 'x' => return .literal ⟨← hexadecimal spaced 2, true⟩
  | 'u' => return .literal ⟨← hexadecimal spaced 4, false⟩
  | 'U' => return .literal ⟨← hexadecimal spaced 8, false⟩
  | c =>
    match ofEscaped? c with
    | some pattern => return pattern
    | none => failure

/-! ## Classes -/

/-- The names of the classes of ASCII. -/
def classNames : List String :=
  ["alnum", "alpha", "ascii", "blank", "cntrl", "digit", "graph", "lower", "print", "punct",
    "space", "upper", "word", "xdigit"]

/-- Takes what follows the bracket before the name of a class. -/
def named : Reader Members := do
  exactly ":"
  let negated := (← optional (exactly "^")).isSome
  let name ← takeWhile (· ≠ ':')
  exactly ":]"
  if classNames.contains (String.ofList name) then return .named negated else failure

/-- Takes an escape or a character that stands for itself. -/
def memberForm (spaced : Bool) : Reader Pattern := do
  match ← character with
  | '\\' => escape spaced
  | c => return .literal ⟨c, false⟩

/-- The member of a class that a form is. -/
def member : Pattern → Reader Members
  | .literal char => pure (.literal char)
  | .shorthand negated => pure (.shorthand negated)
  | _ => failure

/-- The end of a range that a form is. -/
def bound : Pattern → Reader Literal
  | .literal char => pure char
  | _ => failure

/-- Is the sign for a range next?  A dash before a bracket or a dash is no such sign. -/
def beginsRange (spaced : Bool) : List Char → Bool
  | '-' :: rest => nextVisible? spaced rest != some ']' && nextVisible? spaced rest != some '-'
  | _ => false

/-- Takes a member or a range. -/
def range (spaced : Bool) : Reader Members := do
  let first ← memberForm spaced
  gap spaced
  if beginsRange spaced (← get) then
    exactly "-"
    gap spaced
    let first ← bound first
    let last ← bound (← memberForm spaced)
    if first.char ≤ last.char then return .range first last else failure
  else member first

/-- What has been read of a class. -/
structure ClassDraft where
  /-- What stands before the last operator. -/
  left : Option Members := none
  /-- The members after it, the last first. -/
  parts : List Members := []

namespace ClassDraft

/-- The members that have been read. -/
def members (draft : ClassDraft) : Members :=
  let right := Members.union draft.parts.reverse
  match draft.left with
  | some left => .combination left right
  | none => right

/-- Puts a member at the end. -/
def add (draft : ClassDraft) (part : Members) : ClassDraft :=
  { draft with parts := part :: draft.parts }

/-- Puts an operator at the end. -/
def combine (draft : ClassDraft) : ClassDraft := { left := some draft.members }

end ClassDraft

/-- Takes a member or an operator of a class, given how to take what follows a bracket. -/
def classPart (spaced : Bool) (inner : Reader Members) (draft : ClassDraft) :
    Reader ClassDraft := do
  gap spaced
  match ← get with
  | '[' :: _ => do
    exactly "["
    draft.add <$> (named <|> inner)
  | ']' :: _ => failure
  | '&' :: '&' :: _ => exactly "&&" *> pure draft.combine
  | '-' :: '-' :: _ => exactly "--" *> pure draft.combine
  | '~' :: '~' :: _ => exactly "~~" *> pure draft.combine
  | _ => draft.add <$> range spaced

/-- Takes a character that stands for itself at the begin of a class. -/
def leading (spaced : Bool) (text : String) (c : Char) : Reader Members := do
  exactly text
  gap spaced
  return .literal ⟨c, false⟩

/-- Takes what follows the bracket at the begin of a class, up to the one at its end.
Dashes stand for themselves there, and if there are none, so does a bracket. -/
def bracketed (spaced : Bool) : Nat → Reader (Bool × Members)
  | 0 => failure
  | room + 1 => do
    gap spaced
    let negated := (← optional (exactly "^" *> gap spaced)).isSome
    let dashes ← many (leading spaced "-" '-')
    let first ← if dashes.isEmpty then optional (leading spaced "]" ']') else pure none
    let inner := (fun inside => Members.nested inside.1 inside.2) <$> bracketed spaced room
    let draft ← foldMany (classPart spaced inner) { parts := first.toList ++ dashes }
    gap spaced
    exactly "]"
    return (negated, draft.members)

/-! ## Groups -/

/-- The letters of the flags. -/
def flagLetters : List Char := ['i', 'm', 's', 'U', 'u', 'R', 'x']

/-- The changes that letters of flags write; those after a dash are cleared. -/
def changes? (letters : List Char) : Option FlagChanges :=
  if letters.all ('-' :: flagLetters).contains && letters.Nodup &&
      letters.getLast? != some '-' then
    let (raised, cleared) := letters.span (· ≠ '-')
    some (raised.map (·, true) ++ (cleared.drop 1).map (·, false))
  else none

/-- What follows an opening parenthesis. -/
inductive Opening where
  /-- Flags alone, and the closing parenthesis. -/
  | changes (changes : FlagChanges)
  /-- The begin of a group. -/
  | group (name : Option String) (changes : FlagChanges)

/-- May the name of a group begin with the character? -/
def isNameStart (c : Char) : Bool := c = '_' || Text.isAlphabetic c

/-- May the character stand in the name of a group? -/
def isNamePart (c : Char) : Bool := c ∈ ['_', '.', '[', ']'] || Text.isAlphanumeric c

/-- Takes the name of a group. -/
def groupName : Reader String := do
  exactly "P<" <|> exactly "<"
  let first ← satisfy isNameStart
  let rest ← takeWhile isNamePart
  exactly ">"
  return String.ofList (first :: rest)

/-- Takes flags, and the sign after them. -/
def flags : Reader Opening := do
  match changes? (← takeWhile fun c => c ≠ ':' && c ≠ ')') with
  | none => failure
  | some written =>
    match ← character with
    | ':' => return .group none written
    | _ => if written.isEmpty then failure else return .changes written

/-- Takes what follows an opening parenthesis, up to the body of the group. -/
def opening (spaced : Bool) : Reader Opening := do
  gap spaced
  match ← get with
  | '?' :: rest => do
    exactly "?"
    if rest.head? = some 'P' ∨ rest.head? = some '<' then return .group (some (← groupName)) []
    else flags
  | _ => return .group none []

/-! ## Bodies -/

/-- What has been read of a body. -/
structure Draft where
  /-- Are blanks passed over? -/
  spaced : Bool
  /-- The alternatives that are at an end, the last first. -/
  branches : List Pattern := []
  /-- The parts of the alternative that is not, the last first. -/
  parts : List Pattern := []

namespace Draft

/-- The pattern that has been read. -/
def pattern (draft : Draft) : Pattern :=
  .choice (.sequence draft.parts.reverse :: draft.branches).reverse

/-- Puts a part at the end. -/
def add (draft : Draft) (part : Pattern) : Draft := { draft with parts := part :: draft.parts }

/-- Ends an alternative. -/
def turn (draft : Draft) : Draft :=
  { draft with branches := .sequence draft.parts.reverse :: draft.branches, parts := [] }

/-- Is the spaced mode on after changes of flags? -/
def isSpacedAfter (draft : Draft) (changes : FlagChanges) : Bool :=
  (changes.lookup 'x').getD draft.spaced

/-- Repeats the last part.  Flags cannot be repeated. -/
def repeatLast (draft : Draft) : Reader Draft :=
  match draft.parts with
  | [] => failure
  | .changes _ :: _ => failure
  | part :: before => pure { draft with parts := .repetition part :: before }

end Draft

/-- Takes a part of a body, given how to take the body of a group. -/
def part (inner : Bool → Reader Pattern) (draft : Draft) : Reader Draft := do
  gap draft.spaced
  match ← character with
  | '(' =>
    match ← opening draft.spaced with
    | .changes written =>
      return { draft.add (.changes written) with spaced := draft.isSpacedAfter written }
    | .group name written =>
      let body ← inner (draft.isSpacedAfter written)
      exactly ")"
      return draft.add (.group name written body)
  | ')' => failure
  | '|' => return draft.turn
  | '[' =>
    let (negated, members) ← bracketed draft.spaced depthLimit
    return draft.add (.set negated members)
  | '?' | '*' | '+' =>
    let draft ← draft.repeatLast
    let _ ← optional (exactly "?")
    return draft
  | '\x7b' => failure
  | '\\' => draft.add <$> escape draft.spaced
  | '.' => return draft.add .anyCharacter
  | '^' | '$' => return draft.add .edge
  | c => return draft.add (.literal ⟨c, false⟩)

/-- Takes a body, in which groups may nest so deep. -/
def body : Nat → Bool → Reader Pattern
  | 0, _ => failure
  | room + 1, spaced => do
    let draft ← foldMany (part (body room)) { spaced }
    gap draft.spaced
    return draft.pattern

/-- The pattern that a text writes. -/
def parse? (text : String) : Option Pattern :=
  (whole? (body (depthLimit + 1) false) text).filter isSupported

example : (parse? "(a|b)+").isSome := by decide +kernel
example : (parse? "[[:alpha:]&&[^x-z]]").isSome := by decide +kernel
example : (parse? "a)").isNone := by decide +kernel
example : (parse? "\\d").isNone ∧ (parse? "(?-u)\\d").isSome := by decide +kernel
example : (parse? "(?<n>a)(?<n>b)").isNone := by decide +kernel

end PassPipeline.Pattern
