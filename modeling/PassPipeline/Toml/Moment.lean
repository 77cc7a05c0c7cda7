import PassPipeline.Text.Number
import PassPipeline.Toml.Trivia

/-!
# Dates and times in documents

A date is a day of the calendar.  A time is given to the second at least, and may follow
a date after a letter or a space; then the distance from universal time may follow.
-/

namespace PassPipeline.Toml

open Text (Reader)
open Text.Reader

/-- Takes a number of so many digits that lies between two bounds. -/
def figure (digits low high : Nat) : Reader Nat := do
  match Text.digits? 10 (← take digits Char.isDigit) with
  | some value => if low ≤ value && value ≤ high then return value else failure
  | none => failure

/-- Has the year a leap day? -/
def isLeapYear (year : Nat) : Bool := year % 4 = 0 && (year % 100 ≠ 0 || year % 400 = 0)

/-- The number of days of a month. -/
def daysOfMonth (year month : Nat) : Nat :=
  if month = 2 then (if isLeapYear year then 29 else 28)
  else if month = 4 || month = 6 || month = 9 || month = 11 then 30
  else 31

/-- Takes a date. -/
def date : Reader Unit := do
  let year ← figure 4 0 9999
  exactly "-"
  let month ← figure 2 1 12
  exactly "-"
  let _ ← figure 2 1 (daysOfMonth year month)

/-- Takes the fraction of a second. -/
def secondFraction : Reader Unit := do
  exactly "."
  let _ ← satisfy Char.isDigit
  let _ ← takeWhile Char.isDigit

/-- Takes an hour and a minute. -/
def hourMinute : Reader Unit := do
  let _ ← figure 2 0 23
  exactly ":"
  let _ ← figure 2 0 59

/-- Takes a time of day. -/
def time : Reader Unit := do
  hourMinute
  exactly ":"
  let _ ← figure 2 0 60
  let _ ← optional secondFraction

/-- Takes a distance from universal time. -/
def offset : Reader Unit :=
  exactly "Z" <|> exactly "z" <|> ((exactly "+" <|> exactly "-") *> hourMinute)

/-- Takes a time that follows a date. -/
def timeOfDate : Reader Unit := do
  exactly "T" <|> exactly "t" <|> exactly " "
  time
  let _ ← optional offset

/-- Takes a date, a time or both. -/
def moment : Reader Unit :=
  (do
    date
    let _ ← optional timeOfDate) <|> time

end PassPipeline.Toml
