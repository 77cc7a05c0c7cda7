import PassPipeline.Json
import PassPipeline.Text.Number

/-!
# Reading data

The reader accepts the JSON grammar and nothing else: no leading zeros, no trailing
commas, no comments, and nothing but blanks around the one value.  A number that is
not written as a whole number, and a zero with a minus sign, is kept as it is written.

An escaped half of a surrogate pair without its other half is no text.  It is let pass
where nobody looks at the text, which is everywhere but in the keys of the outermost
object; there it is refused.
-/

namespace PassPipeline.Json

/-- A reader of some of the input.  It says what it read and what is left. -/
abbrev Reader (α : Type) := List Char → Option (α × List Char)

/-- Is the character a blank between values? -/
def isBlank (c : Char) : Bool := c = ' ' || c = '\t' || c = '\n' || c = '\r'

/-- What is left after blanks. -/
def skipBlanks (input : List Char) : List Char := input.dropWhile isBlank

/-- Reads four hexadecimal digits. -/
def readUnit : Reader Nat
  | a :: b :: c :: d :: rest => (Text.digits? 16 [a, b, c, d]).map (·, rest)
  | _ => none

/-- The character with the given halves of its surrogate pair. -/
def ofSurrogates (high low : Nat) : Char :=
  Char.ofNat (0x10000 + (high - 0xD800) * 0x400 + (low - 0xDC00))

/-- The character of a lone surrogate, if it may pass. -/
def loneSurrogate (strict : Bool) : Option Char := if strict then none else some '\uFFFD'

/-- Reads the rest of an escaped code unit, and of its other half if it has one. -/
def readCode (strict : Bool) (input : List Char) : Option (Char × List Char) :=
  match readUnit input with
  | none => none
  | some (code, rest) =>
    if 0xDC00 ≤ code ∧ code ≤ 0xDFFF then (loneSurrogate strict).map (·, rest)
    else if 0xD800 ≤ code ∧ code ≤ 0xDBFF then
      match rest with
      | '\\' :: 'u' :: after =>
        match readUnit after with
        | some (low, last) =>
          if 0xDC00 ≤ low ∧ low ≤ 0xDFFF then some (ofSurrogates code low, last)
          else (loneSurrogate strict).map (·, rest)
        | none => none
      | _ => (loneSurrogate strict).map (·, rest)
    else some (Char.ofNat code, rest)

/-- Reads the rest of an escape. -/
def readEscape (strict : Bool) : Reader Char
  | '"' :: rest => some ('"', rest)
  | '\\' :: rest => some ('\\', rest)
  | '/' :: rest => some ('/', rest)
  | 'b' :: rest => some ('\x08', rest)
  | 'f' :: rest => some ('\x0c', rest)
  | 'n' :: rest => some ('\n', rest)
  | 'r' :: rest => some ('\r', rest)
  | 't' :: rest => some ('\t', rest)
  | 'u' :: rest => readCode strict rest
  | _ => none

/-- Reads the rest of a text after its opening quote and the characters `begun`, newest
first.  Every step reads a character at least. -/
def readText (strict : Bool) (begun : List Char) : Nat → Reader String
  | 0, _ => none
  | fuel + 1, input =>
    match input with
    | '"' :: rest => some (String.ofList begun.reverse, rest)
    | '\\' :: rest =>
      match readEscape strict rest with
      | some (c, rest) => readText strict (c :: begun) fuel rest
      | none => none
    | c :: rest => if c.toNat < 0x20 then none else readText strict (c :: begun) fuel rest
    | [] => none

/-- Splits off the decimal digits at the front. -/
def spanDigits (input : List Char) : List Char × List Char := input.span (·.isDigit)

/-- Reads the whole part of a number: a zero, or digits that do not begin with one. -/
def readWhole : Reader (List Char)
  | '0' :: rest => some (['0'], rest)
  | input =>
    match spanDigits input with
    | ([], _) => none
    | (digits, rest) => some (digits, rest)

/-- Reads the fraction of a number, which may be absent. -/
def readFraction : Reader (List Char)
  | '.' :: rest =>
    match spanDigits rest with
    | ([], _) => none
    | (digits, rest) => some ('.' :: digits, rest)
  | input => some ([], input)

/-- Splits off a sign, if there is one. -/
def splitSign : List Char → List Char × List Char
  | '+' :: rest => (['+'], rest)
  | '-' :: rest => (['-'], rest)
  | input => ([], input)

/-- Reads the exponent of a number, which may be absent. -/
def readExponent (input : List Char) : Option (List Char × List Char) :=
  match input with
  | [] => some ([], [])
  | mark :: rest =>
    if mark = 'e' ∨ mark = 'E' then
      let (sign, rest) := splitSign rest
      match spanDigits rest with
      | ([], _) => none
      | (digits, rest) => some (mark :: sign ++ digits, rest)
    else some ([], input)

/-- A number in its parts. -/
def ofParts (negative : Bool) (whole fraction exponent : List Char) : Json :=
  let sign := if negative then ['-'] else []
  match fraction ++ exponent, Text.digits? 10 whole with
  | [], some value =>
    if negative then
      if value = 0 then .decimal "-0" else .int (-(value : Int))
    else .int value
  | rest, _ => .decimal (String.ofList (sign ++ whole ++ rest))

/-- Reads a number after its sign. -/
def readNumber (negative : Bool) (input : List Char) : Option (Json × List Char) := do
  let (whole, rest) ← readWhole input
  let (fraction, rest) ← readFraction rest
  let (exponent, rest) ← readExponent rest
  return (ofParts negative whole fraction exponent, rest)

mutual

/-- Reads a value at the given depth. -/
def readValue (outermost : Bool) : Nat → Reader Json
  | 0, _ => none
  | fuel + 1, input =>
    match skipBlanks input with
    | '"' :: rest => (readText false [] (rest.length + 1) rest).map fun (content, rest) =>
        (.text content, rest)
    | '[' :: rest =>
      match skipBlanks rest with
      | ']' :: rest => some (.array [], rest)
      | rest => (readItems fuel rest).map fun (items, rest) => (.array items, rest)
    | '\x7b' :: rest =>
      match skipBlanks rest with
      | '\x7d' :: rest => some (.object [], rest)
      | rest => (readMembers outermost fuel rest).map fun (members, rest) =>
          (.object members, rest)
    | 'n' :: 'u' :: 'l' :: 'l' :: rest => some (.null, rest)
    | 't' :: 'r' :: 'u' :: 'e' :: rest => some (.bool true, rest)
    | 'f' :: 'a' :: 'l' :: 's' :: 'e' :: rest => some (.bool false, rest)
    | '-' :: rest => readNumber true rest
    | input => readNumber false input

/-- Reads the items of an array, at least one, and the closing bracket. -/
def readItems : Nat → Reader (List Json)
  | 0, _ => none
  | fuel + 1, input =>
    match readValue false fuel input with
    | none => none
    | some (item, rest) =>
      match skipBlanks rest with
      | ',' :: rest => (readItems fuel rest).map fun (items, rest) => (item :: items, rest)
      | ']' :: rest => some ([item], rest)
      | _ => none

/-- Reads the members of an object, at least one, and the closing bracket. -/
def readMembers (outermost : Bool) : Nat → Reader (List (String × Json))
  | 0, _ => none
  | fuel + 1, input =>
    match skipBlanks input with
    | '"' :: rest =>
      match readText outermost [] (rest.length + 1) rest with
      | none => none
      | some (key, rest) =>
        match skipBlanks rest with
        | ':' :: rest =>
          match readValue false fuel rest with
          | none => none
          | some (value, rest) =>
            match skipBlanks rest with
            | ',' :: rest =>
              (readMembers outermost fuel rest).map fun (members, rest) =>
                ((key, value) :: members, rest)
            | '\x7d' :: rest => some ([(key, value)], rest)
            | _ => none
        | _ => none
    | _ => none

end

/-- Reads one value that takes up the whole text. -/
def parse (text : String) : Option Json :=
  match readValue true (text.toList.length + 1) text.toList with
  | some (value, rest) => if (skipBlanks rest).isEmpty then some value else none
  | none => none

end PassPipeline.Json
