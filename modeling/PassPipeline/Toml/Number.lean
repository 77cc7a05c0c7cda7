import PassPipeline.Text.Number
import PassPipeline.Toml.Item
import PassPipeline.Toml.Trivia

/-!
# Numbers in documents

Between two digits of a number may stand an underscore.  Whole numbers fit a signed
64-bit word.  A number with a fraction or an exponent must not be too great for a
64-bit float; one that is too small or too far below zero may be written.
-/

namespace PassPipeline.Toml

open Text (Reader)
open Text.Reader

/-- Takes a digit of a base. -/
def digit (base : Nat) : Reader Char := satisfy (Text.isDigitOf base)

/-- Takes the digits that follow a digit. -/
def moreDigits (base : Nat) : Reader (List Char) :=
  many (digit base <|> (exactly "_" *> digit base))

/-- Takes digits of a base, at least one. -/
def digits (base : Nat) : Reader (List Char) := do
  let first ← digit base
  return first :: (← moreDigits base)

/-- Takes decimal digits that do not begin with a zero, or a single zero. -/
def wholePart : Reader (List Char) := do
  let first ← digit 10
  if first = '0' then return [first] else return first :: (← moreDigits 10)

/-- Takes a sign, and tells whether it is a minus. -/
def sign : Reader Bool :=
  (exactly "-" *> pure true) <|> (exactly "+" *> pure false) <|> pure false

/-- The number that digits write. -/
def valueOf (base : Nat) (digits : List Char) : Nat := (Text.digits? base digits).getD 0

/-! ## Whole numbers -/

/-- The first whole number that is too great. -/
def integerBound : Nat := UInt64.size / 2

/-- A whole number of that magnitude. -/
def signed (negative : Bool) (magnitude : Nat) : Reader Int :=
  if negative then
    if magnitude ≤ integerBound then pure (-(magnitude : Int)) else failure
  else if magnitude < integerBound then pure magnitude else failure

/-- Takes the digits after the mark of a base. -/
def based (mark : String) (base : Nat) : Reader Int := do
  exactly mark
  signed false (valueOf base (← digits base))

/-- Takes a whole number. -/
def integer : Reader Int :=
  based "0x" 16 <|> based "0o" 8 <|> based "0b" 2 <|> do
    let negative ← sign
    signed negative (valueOf 10 (← wholePart))

/-! ## Floats -/

/-- The least number that is rounded to infinity: half a unit above the greatest float. -/
def floatBound : Nat := Nat.pow 2 1024 - Nat.pow 2 970

/-- Is a decimal fraction too great for a float?  The number of its digits before the
point decides where it can, so that no power of ten is computed that would be enormous. -/
def isTooGreat (mantissa : Nat) (exponent : Int) : Bool :=
  let places : Int := (Nat.toDigits 10 mantissa).length + exponent
  if mantissa = 0 ∨ places < 300 then false
  else if 320 < places then true
  else floatBound * Nat.pow 10 (-exponent).toNat ≤ mantissa * Nat.pow 10 exponent.toNat

/-- Takes the fraction of a number. -/
def fraction : Reader (List Char) := exactly "." *> digits 10

/-- Takes the exponent of a number. -/
def exponent : Reader Int := do
  exactly "e" <|> exactly "E"
  let negative ← sign
  let magnitude := valueOf 10 (← digits 10)
  return if negative then -(magnitude : Int) else magnitude

/-- Takes a number with a fraction, an exponent, or both. -/
def decimal : Reader Unit := do
  let negative ← sign
  let whole ← wholePart
  let (places, scale) ← (do return ([], ← exponent)) <|> do
    let places ← fraction
    return (places, (← optional exponent).getD 0)
  if !negative && isTooGreat (valueOf 10 (whole ++ places)) (scale - places.length) then failure

/-- Takes the word for an infinite number or for no number. -/
def special : Reader Unit := do
  let _ ← sign
  exactly "inf" <|> exactly "nan"

/-- Takes a number of any sort. -/
def number : Reader Item :=
  (decimal *> pure .float) <|> (special *> pure .float) <|> .integer <$> integer

end PassPipeline.Toml
