import PassPipeline.PassError

/-!
# Output streams

A stream passes text on to a writer.  What a writer does with the bytes it is
offered is its own affair: it may take some of them, take none, report a failure,
or die.  A stream offers what has not been taken until everything is taken, so
what it records is the bytes taken, in order.

A writer that dies leaves the stream poisoned: from then on every use of it is
refused, even a use that would write nothing.
-/

namespace PassPipeline

/-- What a writer has seen so far. -/
structure Progress where
  offers : Nat := 0
  taken : Nat := 0
  /-- The number of times it was asked to pass on what it holds back. -/
  flushes : Nat := 0
  deriving DecidableEq, Repr, Inhabited

/-- What a writer answers to an offer of bytes. -/
inductive Reply where
  /-- It takes that many bytes, or all of them if fewer are offered. -/
  | took (count : Nat)
  | failed (reason : String)
  | died
  deriving DecidableEq, Repr

/-- A receiver of bytes.  Its answers depend on what it has seen so far. -/
structure Writer where
  /-- The answer to an offer of at least one byte. -/
  offer : Progress → ByteArray → Reply
  /-- The reason for which a flush fails, if it does. -/
  flushFailure : Progress → Option String := fun _ => none

/-- An output stream. -/
structure Stream where
  /-- The receiver of the bytes. -/
  writer : Writer
  /-- What the receiver has seen. -/
  progress : Progress := {}
  /-- The bytes that were taken. -/
  contents : ByteArray := ByteArray.empty
  poisoned : Bool := false

namespace Stream

/-- The refusal of a stream whose writer has died. -/
def poisonError : PassError :=
  .lockPoisoned "pass stream: poisoned lock: another task failed inside"

/-- The refusal of bytes that the writer takes none of. -/
def stuckError : PassError := .io "failed to write whole buffer"

/-- The stream after its writer took the first `count` of the offered bytes. -/
def take (stream : Stream) (offered : ByteArray) (count : Nat) : Stream :=
  { stream with
    progress := { stream.progress with
      offers := stream.progress.offers + 1, taken := stream.progress.taken + count }
    contents := stream.contents ++ offered.extract 0 count }

/-- The stream after its writer was made an offer of which it took nothing. -/
def refuse (stream : Stream) : Stream :=
  { stream with progress := { stream.progress with offers := stream.progress.offers + 1 } }

/-- Offers bytes until all of them are taken. -/
def writeBytes (stream : Stream) (bytes : ByteArray) : Except Halt Unit × Stream :=
  if bytes.size = 0 then (.ok (), stream)
  else
    match stream.writer.offer stream.progress bytes with
    | .failed reason => (.error (.refused (.io reason)), stream.refuse)
    | .died => (.error .panicked, { stream.refuse with poisoned := true })
    | .took 0 => (.error (.refused stuckError), stream.refuse)
    | .took (count + 1) =>
      (stream.take bytes (min (count + 1) bytes.size)).writeBytes
        (bytes.extract (min (count + 1) bytes.size) bytes.size)
termination_by bytes.size
decreasing_by
  simp only [ByteArray.size_extract]
  omega

/-- Writes a text. -/
def writeText (stream : Stream) (text : String) : Except Halt Unit × Stream :=
  if stream.poisoned then (.error (.refused poisonError), stream)
  else stream.writeBytes text.toUTF8

/-- Asks the writer to pass on what it holds back. -/
def flush (stream : Stream) : Except PassError Unit × Stream :=
  if stream.poisoned then (.error poisonError, stream)
  else
    let asked := { stream with
      progress := { stream.progress with flushes := stream.progress.flushes + 1 } }
    match stream.writer.flushFailure stream.progress with
    | some reason => (.error (.io reason), asked)
    | none => (.ok (), asked)

/-- A poisoned stream refuses every text and takes nothing of it. -/
theorem writeText_of_poisoned {stream : Stream} (hpoisoned : stream.poisoned = true)
    (text : String) : stream.writeText text = (.error (.refused poisonError), stream) := by
  simp [writeText, hpoisoned]

/-- A poisoned stream refuses to be flushed. -/
theorem flush_of_poisoned {stream : Stream} (hpoisoned : stream.poisoned = true) :
    stream.flush = (.error poisonError, stream) := by
  simp [flush, hpoisoned]

/-- A flush takes no bytes. -/
theorem contents_flush (stream : Stream) : stream.flush.2.contents = stream.contents := by
  unfold flush
  split
  · rfl
  · dsimp only
    split <;> rfl

/-- Adds bytes to the record past the writer. -/
def append (stream : Stream) (bytes : ByteArray) : Stream :=
  { stream with contents := stream.contents ++ bytes }

end Stream

end PassPipeline
