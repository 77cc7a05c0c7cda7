import PassPipeline.Text.Reader

/-!
# Blanks, line ends and comments

Blanks are spaces and tabs.  A line ends with a line feed, which a carriage return may
precede, or with the document.  A comment runs from a number sign to the end of its line
and holds no control character but the tab.
-/

namespace PassPipeline.Toml

open Text (Reader)
open Text.Reader

/-- Is the character a blank? -/
def isBlank (c : Char) : Bool := c = ' ' || c = '\t'

/-- May the character stand in a comment?  Every one may but the controls, of which the
tab alone is let pass. -/
def isVisible (c : Char) : Bool := c = '\t' || 0x20 ≤ c.toNat && c.toNat ≠ 0x7F

/-- Takes blanks. -/
def blanks : Reader Unit := do
  let _ ← takeWhile isBlank

/-- Takes a line end inside the document. -/
def newline : Reader Unit := exactly "\n" <|> exactly "\r\n"

/-- Takes the end of a line. -/
def lineEnd : Reader Unit := newline <|> atEnd

/-- Takes a comment. -/
def comment : Reader Unit := do
  exactly "#"
  let _ ← takeWhile isVisible

/-- Takes what may follow the content of a line, and the end of the line. -/
def trailing : Reader Unit := do
  blanks
  let _ ← optional comment
  lineEnd

/-- Takes blanks and line ends. -/
def blankLines : Reader Unit := do
  let _ ← many (newline <|> do
    let _ ← satisfy isBlank)

/-- Takes blanks, line ends and comments. -/
def filler : Reader Unit := do
  let _ ← many (newline <|> comment <|> do
    let _ ← satisfy isBlank)

end PassPipeline.Toml
