/-!
# Patterns

A filter of messages may describe the value of a field by a pattern, a regular expression.
No message is ever compared with one, so of a pattern there is only its form here, and
what a form has to satisfy:

* its parts nest at most `depthLimit` deep (`Pattern.depth`);
* its groups have different names (`Pattern.names`);
* it can be decided byte by byte and without tables of characters (`Pattern.modesAfter?`).

A part is read in modes.  In the mode of characters the last condition rules out what the
tables of characters would have to explain: the shorthands for classes, the edges of words,
and that the case of letters is ignored.  In the mode of bytes it rules out what could take
a character apart.
-/

namespace PassPipeline

/-! ## Form -/

/-- Flags that are set or cleared. -/
abbrev FlagChanges := List (Char × Bool)

/-- A character that stands for itself. -/
structure Literal where
  /-- The character. -/
  char : Char
  /-- Is it written as a byte? -/
  isByte : Bool := false
  deriving DecidableEq, Repr

/-- What a class in brackets holds. -/
inductive Members where
  | literal (literal : Literal)
  | range (first last : Literal)
  /-- A class of ASCII that a name stands for. -/
  | named (negated : Bool)
  /-- A class that a letter after a backslash stands for. -/
  | shorthand (negated : Bool)
  | nested (negated : Bool) (members : Members)
  | union (parts : List Members)
  /-- What two classes have in common, or what tells them apart. -/
  | combination (left right : Members)
  deriving Repr

/-- A pattern. -/
inductive Pattern where
  /-- Flags that hold from there to the end of the group. -/
  | changes (changes : FlagChanges)
  | literal (literal : Literal)
  | anyCharacter
  /-- The begin or the end of the text or of a line. -/
  | edge
  /-- The begin or the end of a word, or neither. -/
  | wordEdge
  /-- A class that a letter after a backslash stands for. -/
  | shorthand (negated : Bool)
  /-- A class in brackets. -/
  | set (negated : Bool) (members : Members)
  | repetition (part : Pattern)
  /-- A group, in which flags may hold. -/
  | group (name : Option String) (changes : FlagChanges) (body : Pattern)
  | sequence (parts : List Pattern)
  | choice (branches : List Pattern)
  deriving Repr

/-! ## Depth -/

/-- The depth of parts that stand side by side.  One alone is no level of its own. -/
def levelOf (count depth : Nat) : Nat := if count < 2 then depth else depth + 1

mutual

/-- How deep the members of a class nest. -/
def Members.depth : Members → Nat
  | .nested _ members => members.depth + 1
  | .union parts => levelOf parts.length (Members.maxDepth parts)
  | .combination left right => max left.depth right.depth + 1
  | .literal _ | .range _ _ | .named _ | .shorthand _ => 0

/-- How deep the deepest of some members nests. -/
def Members.maxDepth : List Members → Nat
  | [] => 0
  | part :: rest => max part.depth (Members.maxDepth rest)

end

mutual

/-- How deep the parts of a pattern nest. -/
def Pattern.depth : Pattern → Nat
  | .set _ members => members.depth + 1
  | .repetition part => part.depth + 1
  | .group _ _ body => body.depth + 1
  | .sequence parts => levelOf parts.length (Pattern.maxDepth parts)
  | .choice branches => levelOf branches.length (Pattern.maxDepth branches)
  | .changes _ | .literal _ | .anyCharacter | .edge | .wordEdge | .shorthand _ => 0

/-- How deep the deepest of some patterns nests. -/
def Pattern.maxDepth : List Pattern → Nat
  | [] => 0
  | part :: rest => max part.depth (Pattern.maxDepth rest)

end

/-- How deep the parts of a pattern may nest. -/
def Pattern.depthLimit : Nat := 250

/-! ## Names -/

mutual

/-- The names of the groups of a pattern. -/
def Pattern.names : Pattern → List String
  | .repetition part => part.names
  | .group name _ body => name.toList ++ body.names
  | .sequence parts => Pattern.allNames parts
  | .choice branches => Pattern.allNames branches
  | .changes _ | .literal _ | .anyCharacter | .edge | .wordEdge | .shorthand _ | .set _ _ => []

/-- The names of the groups of some patterns. -/
def Pattern.allNames : List Pattern → List String
  | [] => []
  | part :: rest => part.names ++ Pattern.allNames rest

end

/-! ## Modes -/

/-- The modes in which a part is read. -/
structure Modes where
  /-- Does the pattern describe characters, and not bytes? -/
  ofCharacters : Bool := true
  /-- Is the case of letters ignored? -/
  ignoringCase : Bool := false
  deriving DecidableEq, Repr

namespace Modes

/-- The modes when a flag is set or cleared.  The other flags do not matter here. -/
def change (modes : Modes) : Char × Bool → Modes
  | ('u', value) => { modes with ofCharacters := value }
  | ('i', value) => { modes with ignoringCase := value }
  | _ => modes

/-- The modes when flags are set or cleared. -/
def apply (modes : Modes) (changes : FlagChanges) : Modes := changes.foldl change modes

/-- May a character of its own stand in a pattern? -/
def admits (modes : Modes) (literal : Literal) : Bool :=
  if modes.ofCharacters then !modes.ignoringCase
  else !literal.isByte || literal.char.toNat < 0x80

/-- May a character stand in a class? -/
def admitsMember (modes : Modes) (literal : Literal) : Bool :=
  if modes.ofCharacters then !modes.ignoringCase else literal.char.toNat < 0x80

end Modes

mutual

/-- May the members stand in a class that is read in those modes? -/
def Members.isAdmitted (modes : Modes) : Members → Bool
  | .literal char => modes.admitsMember char
  | .range first last => modes.admitsMember first && modes.admitsMember last
  | .named negated => if modes.ofCharacters then !modes.ignoringCase else !negated
  | .shorthand negated => !modes.ofCharacters && !negated
  | .nested negated members => (modes.ofCharacters || !negated) && members.isAdmitted modes
  | .union parts => Members.areAdmitted modes parts
  | .combination left right => left.isAdmitted modes && right.isAdmitted modes

/-- May some members stand in a class that is read in those modes? -/
def Members.areAdmitted (modes : Modes) : List Members → Bool
  | [] => true
  | part :: rest => part.isAdmitted modes && Members.areAdmitted modes rest

end

mutual

/-- The modes in which what follows a pattern is read, if the pattern is admitted in the
given ones. -/
def Pattern.modesAfter? (modes : Modes) : Pattern → Option Modes
  | .changes flags => some (modes.apply flags)
  | .literal char => if modes.admits char then some modes else none
  | .anyCharacter => if modes.ofCharacters then some modes else none
  | .edge => some modes
  | .wordEdge => if modes.ofCharacters then none else some modes
  | .shorthand negated => if !modes.ofCharacters && !negated then some modes else none
  | .set negated members =>
    if (modes.ofCharacters || !negated) && members.isAdmitted modes then some modes else none
  | .repetition part => part.modesAfter? modes
  | .group _ flags body => (body.modesAfter? (modes.apply flags)).map fun _ => modes
  | .sequence parts => Pattern.modesAfterAll? modes parts
  | .choice branches => Pattern.modesAfterAll? modes branches

/-- The modes after some patterns, each of which is read in the modes after the one before
it. -/
def Pattern.modesAfterAll? (modes : Modes) : List Pattern → Option Modes
  | [] => some modes
  | part :: rest => (part.modesAfter? modes).bind fun modes => Pattern.modesAfterAll? modes rest

end

/-- Is the pattern one that the filter takes? -/
def Pattern.isSupported (pattern : Pattern) : Bool :=
  pattern.depth ≤ Pattern.depthLimit && pattern.names.Nodup && (pattern.modesAfter? {}).isSome

end PassPipeline
