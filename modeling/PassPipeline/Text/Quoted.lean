import PassPipeline.Text.Printable

/-!
# Quoted text

Descriptions of data quote text and characters.  A backslash, the quote sign in
use, and the tab, line feed, carriage return and null characters are written with a
backslash; any other character without a shape of its own is written by its code
point in braces.
-/

namespace PassPipeline.Text

/-- The lower-case hexadecimal digits of a number. -/
def hexadecimal (n : Nat) : List Char := Nat.toDigits 16 n

/-- A character as it stands between the given quote signs. -/
def escape (quote : Char) (c : Char) : List Char :=
  if c = '\\' then ['\\', '\\']
  else if c = quote then ['\\', quote]
  else if c = '\x00' then ['\\', '0']
  else if c = '\t' then ['\\', 't']
  else if c = '\r' then ['\\', 'r']
  else if c = '\n' then ['\\', 'n']
  else if isShapely c then [c]
  else ['\\', 'u', '\x7b'] ++ hexadecimal c.toNat ++ ['\x7d']

/-- Text between double quotes. -/
def quoted (text : String) : String :=
  String.ofList ('"' :: text.toList.flatMap (escape '"') ++ ['"'])

/-- A character between single quotes. -/
def quotedChar (c : Char) : String := String.ofList ('\'' :: escape '\'' c ++ ['\''])

example : quoted "a\"b'" = "\"a\\\"b'\"" := by decide +kernel

end PassPipeline.Text
