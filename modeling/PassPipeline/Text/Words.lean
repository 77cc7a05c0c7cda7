import PassPipeline.Text.Blank
import Std.Data.ExtTreeSet

/-!
# Words and lines

A word is a maximal run of characters none of which is blank.  A line is a run
of characters up to a line feed; what follows the last line feed is a line only
if it is not empty.
-/

namespace PassPipeline.Text

/-- Puts the characters collected so far, newest first, in front of the words
that follow, unless there are none. -/
def closeWord (collected : List Char) (rest : List (List Char)) : List (List Char) :=
  if collected.isEmpty then rest else collected.reverse :: rest

/-- The words of a text whose first word has begun with `collected`, newest
character first. -/
def wordsFrom (collected : List Char) : List Char → List (List Char)
  | [] => closeWord collected []
  | c :: rest =>
    if isBlank c then closeWord collected (wordsFrom [] rest)
    else wordsFrom (c :: collected) rest

/-- The words of a text, in order. -/
def words (text : String) : List String :=
  (wordsFrom [] text.toList).map String.ofList

/-- The number of lines of a text, given whether a line has begun. -/
def countLines (begun : Bool) : List Char → Nat
  | [] => if begun then 1 else 0
  | c :: rest => if c = '\n' then countLines false rest + 1 else countLines true rest

/-- The number of lines of a text. -/
def lineCount (text : String) : Nat := countLines false text.toList

/-- The number of different words in a list. -/
def distinctCount (items : List String) : Nat :=
  (Std.ExtTreeSet.ofList items compare).size

end PassPipeline.Text
