import PassPipeline.Text.Reader

/-!
# Numbers in digits

Whole numbers are read from ASCII digits in a base of at most sixteen.  Decimal numbers may
have a sign, a point and an exponent.
-/

namespace PassPipeline.Text

/-- The value of a digit, in any base up to sixteen. -/
def digitValue? (c : Char) : Option Nat :=
  if '0' ≤ c ∧ c ≤ '9' then some (c.toNat - '0'.toNat)
  else if 'a' ≤ c ∧ c ≤ 'f' then some (c.toNat - 'a'.toNat + 10)
  else if 'A' ≤ c ∧ c ≤ 'F' then some (c.toNat - 'A'.toNat + 10)
  else none

/-- Is the character a digit of the base? -/
def isDigitOf (base : Nat) (c : Char) : Bool :=
  match digitValue? c with
  | some value => value < base
  | none => false

/-- The number that the digits write, after those that wrote `begun`. -/
def digitsFrom? (base begun : Nat) : List Char → Option Nat
  | [] => some begun
  | c :: rest =>
    match digitValue? c with
    | some value => if value < base then digitsFrom? base (begun * base + value) rest else none
    | none => none

/-- The number that the digits of a base write; there has to be at least one. -/
def digits? (base : Nat) : List Char → Option Nat
  | [] => none
  | digits => digitsFrom? base 0 digits

/-- The first number that does not fit a 64-bit word. -/
def wordBound : Nat := UInt64.size

/-- A number that fits a 64-bit word: decimal digits after at most one plus sign. -/
def word? (text : List Char) : Option Nat :=
  let digits := match text with
    | '+' :: rest => rest
    | _ => text
  match digits? 10 digits with
  | some value => if value < wordBound then some value else none
  | none => none

example : word? ['+', '0', '7'] = some 7 := by decide
example : word? ['+'] = none := by decide

/-! ## Decimal numbers -/

namespace Reader

/-- Takes a sign, if there is one. -/
def sign : Reader Unit := exactly "+" <|> exactly "-" <|> pure ()

/-- Takes an exponent. -/
def exponent : Reader Unit := do
  exactly "e" <|> exactly "E"
  sign
  if (← takeWhile Char.isDigit).isEmpty then failure

/-- Takes a decimal number: digits, which a point may divide, and perhaps an exponent. -/
def decimal : Reader Unit := do
  sign
  let whole ← takeWhile Char.isDigit
  let fraction ← (exactly "." *> takeWhile Char.isDigit) <|> pure []
  if whole.isEmpty && fraction.isEmpty then failure
  let _ ← optional exponent

end Reader

/-- The words for numbers without digits. -/
def numberWords : List String := ["inf", "infinity", "nan"]

/-- Does the text write a number? -/
def isNumber (text : String) : Bool :=
  (Reader.whole? Reader.decimal text).isSome ||
    numberWords.any fun word => ["", "+", "-"].any fun sign => text.toLower == sign ++ word

example : isNumber "+.5e-3" = true := by decide +kernel

end PassPipeline.Text
