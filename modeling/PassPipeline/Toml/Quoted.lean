import PassPipeline.Text.Number
import PassPipeline.Toml.Trivia

/-!
# Quoted text in documents

Text between double quotes has escapes, text between single quotes has none.  Either
sort may run over several lines between tripled quotes; then a line end right after the
opening quotes is dropped, every other one is a line feed, and a backslash at the end of
a line takes away all blanks and line ends up to the next other character.
-/

namespace PassPipeline.Toml

open Text (Reader)
open Text.Reader

/-- The character with that code point, which has to be a character. -/
def ofCode (code : Nat) : Reader Char :=
  if code.isValidChar then pure (Char.ofNat code) else failure

/-- Takes the hexadecimal digits of a code point. -/
def codePoint (digits : Nat) : Reader Char := do
  match Text.digits? 16 (← take digits (Text.isDigitOf 16)) with
  | some code => ofCode code
  | none => failure

/-- Takes an escape. -/
def escape : Reader Char := do
  exactly "\\"
  match ← satisfy fun _ => true with
  | 'b' => return '\x08'
  | 'f' => return '\x0c'
  | 'n' => return '\n'
  | 'r' => return '\r'
  | 't' => return '\t'
  | '\\' => return '\\'
  | '"' => return '"'
  | 'u' => codePoint 4
  | 'U' => codePoint 8
  | _ => failure

/-- May the character stand for itself where there are escapes? -/
def isPlain (c : Char) : Bool := isVisible c && c ≠ '"' && c ≠ '\\'

/-- May the character stand for itself where there are no escapes? -/
def isLiteral (c : Char) : Bool := isVisible c && c ≠ '\''

/-- Takes text on one line with escapes. -/
def basic : Reader String := do
  exactly "\""
  let content ← many (satisfy isPlain <|> escape)
  exactly "\""
  return String.ofList content

/-- Takes text on one line without escapes. -/
def literal : Reader String := do
  exactly "'"
  let content ← takeWhile isLiteral
  exactly "'"
  return String.ofList content

/-- Takes one quote or two that do not belong to the closing quotes. -/
def looseQuotes (quote : Char) : Reader (List Char) := do
  let quotes ← takeWhile (· = quote)
  if quotes.length ≤ 2 && (← peek?).isSome && !quotes.isEmpty then return quotes else failure

/-- Takes the closing quotes.  Up to two more in front of them belong to the text. -/
def closingQuotes (quote : Char) : Reader (List Char) := do
  let quotes ← takeWhile (· = quote)
  if 3 ≤ quotes.length && quotes.length ≤ 5 then return quotes.drop 3 else failure

/-- Takes a line end that is part of the text. -/
def innerNewline : Reader (List Char) := do
  newline
  return ['\n']

/-- Takes a line end that is not part of the text, with the blanks and line ends around
it. -/
def foldedNewline : Reader (List Char) := do
  exactly "\\"
  blanks
  newline
  blankLines
  return []

/-- Takes text between tripled quotes, given how to take a piece of it. -/
def tripled (quote : Char) (piece : Reader (List Char)) : Reader String := do
  exactly (String.ofList [quote, quote, quote])
  let _ ← optional newline
  let pieces ← many (piece <|> innerNewline <|> looseQuotes quote)
  let last ← closingQuotes quote
  return String.ofList (pieces.flatten ++ last)

/-- Takes text that may run over several lines, with escapes. -/
def longBasic : Reader String :=
  tripled '"' (List.singleton <$> satisfy isPlain <|> foldedNewline <|> List.singleton <$> escape)

/-- Takes text that may run over several lines, without escapes. -/
def longLiteral : Reader String := tripled '\'' (List.singleton <$> satisfy isLiteral)

/-- Takes quoted text of any sort. -/
def quotedText : Reader String := longBasic <|> basic <|> longLiteral <|> literal

end PassPipeline.Toml
