/-!
# Readers

A reader takes characters from the front of its input, or fails.  Of two readers the
second is tried where the first fails, on the same input.
-/

namespace PassPipeline.Text

/-- A reader of some of the input. -/
abbrev Reader := StateT (List Char) Option

namespace Reader

/-- Takes a character that satisfies a condition. -/
def satisfy (condition : Char → Bool) : Reader Char := fun
  | c :: rest => if condition c then some (c, rest) else none
  | [] => none

/-- Takes any character. -/
def character : Reader Char := satisfy fun _ => true

/-- Takes the given characters. -/
def exactly (text : String) : Reader Unit := fun input =>
  if text.toList.isPrefixOf input then some ((), input.drop text.length) else none

/-- Takes every character up to the first that violates a condition. -/
def takeWhile (condition : Char → Bool) : Reader (List Char) := fun input =>
  some (input.takeWhile condition, input.dropWhile condition)

/-- Takes a number of characters that satisfy a condition. -/
def take (count : Nat) (condition : Char → Bool) : Reader (List Char) := fun input =>
  if count ≤ input.length && (input.take count).all condition then
    some (input.take count, input.drop count)
  else none

/-- Tells the next character and does not take it. -/
def peek? : Reader (Option Char) := fun input => some (input.head?, input)

/-- Takes nothing, and fails unless nothing is left. -/
def atEnd : Reader Unit := fun input => if input.isEmpty then some ((), []) else none

/-- Repeats a reader until it fails, and at most `count` times. -/
def atMost {α : Type} (reader : Reader α) : Nat → Reader (List α)
  | 0 => pure []
  | count + 1 => do
    match ← optional reader with
    | none => return []
    | some item => return item :: (← atMost reader count)

/-- Repeats a reader until it fails.  A reader that always takes something cannot succeed
more often than there are characters. -/
def many {α : Type} (reader : Reader α) : Reader (List α) := do
  atMost reader (← get).length

/-- Repeats a reader on what it has made until it fails, and at most `count` times. -/
def foldAtMost {σ : Type} (reader : σ → Reader σ) : Nat → σ → Reader σ
  | 0, made => pure made
  | count + 1, made => do
    match ← optional (reader made) with
    | none => return made
    | some next => foldAtMost reader count next

/-- Repeats a reader on what it has made until it fails.  The reader always takes
something. -/
def foldMany {σ : Type} (reader : σ → Reader σ) (start : σ) : Reader σ := do
  foldAtMost reader (← get).length start

/-- Takes items with a separator between them; there may be none. -/
def separated {α : Type} (item : Reader α) (separator : Reader Unit) : Reader (List α) := do
  match ← optional item with
  | none => return []
  | some first => return first :: (← many (separator *> item))

/-- What a reader makes of a whole text. -/
def whole? {α : Type} (reader : Reader α) (text : String) : Option α :=
  (reader <* atEnd).run' text.toList

end Reader

end PassPipeline.Text
