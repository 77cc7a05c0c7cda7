import PassPipeline.Stream

/-!
# Writers to order

The writers that scripted sessions use: one takes everything, the others
take little at a time, run full, fail, or die.
-/

namespace PassPipeline.Writer

/-- Takes everything. -/
def unlimited : Writer where
  offer _ bytes := .took bytes.size

/-- Takes at most `size` bytes of each offer. -/
def chunked (size : Nat) : Writer where
  offer _ bytes := .took (min size bytes.size)

/-- Takes `budget` bytes in total and none after that. -/
def limited (budget : Nat) : Writer where
  offer progress bytes := .took (min (budget - progress.taken) bytes.size)

/-- Takes `budget` bytes in total and fails after that. -/
def failing (budget : Nat) (reason : String) : Writer where
  offer progress bytes :=
    if progress.taken < budget then .took (min (budget - progress.taken) bytes.size)
    else .failed reason

/-- Takes everything and fails to flush. -/
def unflushable (reason : String) : Writer where
  offer _ bytes := .took bytes.size
  flushFailure _ := some reason

/-- Dies at the first offer. -/
def fatal : Writer where
  offer _ _ := .died

end PassPipeline.Writer

namespace PassPipeline.Stream

/-- A fresh stream to a writer. -/
def ofWriter (writer : Writer) : Stream := { writer }

/-- A fresh stream that takes everything. -/
def buffer : Stream := ofWriter .unlimited

end PassPipeline.Stream
