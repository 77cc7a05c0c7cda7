import PassPipeline.Event

/-!
# Points in time as text

A point in time is written as a date and a time of day, with as many digits of the second
as it needs in groups of three, and a mark for universal time.

The day is found by counting years from the first of March of the year 0, so that a leap
day is the last day of its year.
-/

namespace PassPipeline.Instant

/-- The nanoseconds of a second. -/
def perSecond : Nat := 1000000000

/-- A number with at least so many digits. -/
def padded (width number : Nat) : String :=
  let digits := toString number
  String.ofList (List.replicate (width - digits.length) '0') ++ digits

/-- The year, month and day of a number of days since the first of January 1970. -/
def civil (days : Nat) : Nat × Nat × Nat :=
  -- 719468 days lie between the first of March of the year 0 and the first day of 1970
  let count := days + 719468
  let era := count / 146097
  let dayOfEra := count % 146097
  let yearOfEra := (dayOfEra - dayOfEra / 1460 + dayOfEra / 36524 - dayOfEra / 146096) / 365
  let dayOfYear := dayOfEra - (365 * yearOfEra + yearOfEra / 4 - yearOfEra / 100)
  let month := (5 * dayOfYear + 2) / 153
  let day := dayOfYear - (153 * month + 2) / 5 + 1
  let year := yearOfEra + era * 400
  if month < 10 then (year, month + 3, day) else (year + 1, month - 9, day)

/-- The digits of a part of a second. -/
def fraction (nanoseconds : Nat) : String :=
  if nanoseconds = 0 then ""
  else if nanoseconds % 1000000 = 0 then "." ++ padded 3 (nanoseconds / 1000000)
  else if nanoseconds % 1000 = 0 then "." ++ padded 6 (nanoseconds / 1000)
  else "." ++ padded 9 nanoseconds

/-- A point in time as text. -/
def written (instant : Instant) : String :=
  let seconds := instant / perSecond
  let (year, month, day) := civil (seconds / 86400)
  padded 4 year ++ "-" ++ padded 2 month ++ "-" ++ padded 2 day ++ "T" ++
    padded 2 (seconds / 3600 % 24) ++ ":" ++ padded 2 (seconds / 60 % 60) ++ ":" ++
    padded 2 (seconds % 60) ++ fraction (instant % perSecond) ++ "Z"

example : civil 0 = (1970, 1, 1) := by decide
example : civil 19782 = (2024, 2, 29) := by decide

end PassPipeline.Instant
