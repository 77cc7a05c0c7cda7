/-!
# Values that passes leave for each other

Every value belongs to one kind, and each kind has its own type of content.  A
reader names the kind it expects and gets content of exactly that type, or
nothing.
-/

namespace PassPipeline

/-- The counts that describe a text. -/
structure TextStats where
  /-- The number of lines. -/
  lines : Nat
  /-- The number of words. -/
  words : Nat
  /-- The number of characters. -/
  chars : Nat
  /-- The number of different words. -/
  distinct : Nat
  deriving DecidableEq, Repr, Inhabited

/-- The kinds of values. -/
inductive Kind where
  | text
  | texts
  | int64
  | word64
  | word32
  | flag
  | unit
  | stats
  deriving DecidableEq, Repr, Inhabited

/-- The type of the content of a kind. -/
abbrev Kind.Content : Kind → Type
  | .text => String
  | .texts => List String
  | .int64 => Int64
  | .word64 => UInt64
  | .word32 => UInt32
  | .flag => Bool
  | .unit => Unit
  | .stats => TextStats

/-- A value together with its kind. -/
inductive Value where
  | text (content : String)
  | texts (content : List String)
  | int64 (content : Int64)
  | word64 (content : UInt64)
  | word32 (content : UInt32)
  | flag (content : Bool)
  | unit
  | stats (content : TextStats)
  deriving DecidableEq, Repr, Inhabited

namespace Value

/-- The value of the given kind with the given content. -/
def ofContent : (kind : Kind) → kind.Content → Value
  | .text, content => .text content
  | .texts, content => .texts content
  | .int64, content => .int64 content
  | .word64, content => .word64 content
  | .word32, content => .word32 content
  | .flag, content => .flag content
  | .unit, _ => .unit
  | .stats, content => .stats content

/-- The content, if the value is of the given kind. -/
def content? : Value → (kind : Kind) → Option kind.Content
  | .text content, .text => some content
  | .texts content, .texts => some content
  | .int64 content, .int64 => some content
  | .word64 content, .word64 => some content
  | .word32 content, .word32 => some content
  | .flag content, .flag => some content
  | .unit, .unit => some ()
  | .stats content, .stats => some content
  | _, _ => none

@[simp]
theorem content?_ofContent (kind : Kind) (content : kind.Content) :
    (ofContent kind content).content? kind = some content := by
  cases kind <;> rfl

/-- A value has content of a kind exactly if it is the value of that kind with
that content. -/
theorem content?_eq_some_iff {value : Value} {kind : Kind} {content : kind.Content} :
    value.content? kind = some content ↔ value = ofContent kind content := by
  constructor
  · intro hcontent
    cases kind <;> cases value <;> cases hcontent <;> rfl
  · rintro rfl
    exact content?_ofContent kind content

end Value

end PassPipeline
