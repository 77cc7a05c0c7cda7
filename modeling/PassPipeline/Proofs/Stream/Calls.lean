import PassPipeline.Proofs.Stream.Room
import PassPipeline.Proofs.Text.Bytes

/-!
# Streams that are used again and again

The clones of a stream share its writer, its record and its poison, so it makes no difference
through which clone a stream is used, and a history of it is the list of its uses (`calls`).
Whatever the writer does, a call leaves the whole text with it, or a first part of the text, or
nothing, and the user can tell from the answer which of them it was (`ask_leaves`).  A stream
whose writer has died stays poisoned (`poisoned_ask`), so that of all calls just those that
come after the death of the writer are refused unheard (`faithful_calls`).
-/

namespace PassPipeline.Stream

/-- What can be asked of a stream. -/
inductive Use where
  | write (text : String)
  | flush
  deriving DecidableEq, Repr

/-- A use of a stream, and what came of it. -/
structure Call where
  use : Use
  answer : Except Halt Unit

def ask (stream : Stream) : Use → Except Halt Unit × Stream
  | .write text => stream.writeText text
  | .flush => (stream.flush.1.mapError .refused, stream.flush.2)

/-- The stream after it was used so. -/
def after (stream : Stream) (uses : List Use) : Stream :=
  uses.foldl (fun here use => (here.ask use).2) stream

/-- The answers to the uses, one after the other. -/
def calls (stream : Stream) : List Use → List Call
  | [] => []
  | use :: rest => ⟨use, (stream.ask use).1⟩ :: (stream.ask use).2.calls rest

/-- What the writer has got from a call that was answered so. -/
inductive Call.Leaves : Call → ByteArray → Prop
  | written {text : String} : Leaves ⟨.write text, .ok ()⟩ text.toUTF8
  | cut {text reason : String} {part rest : ByteArray} (hpart : part ++ rest = text.toUTF8)
      (hrest : rest ≠ ByteArray.empty) : Leaves ⟨.write text, .error (.refused (.io reason))⟩ part
  | died {text : String} {part rest : ByteArray} (hpart : part ++ rest = text.toUTF8)
      (hrest : rest ≠ ByteArray.empty) : Leaves ⟨.write text, .error .panicked⟩ part
  | refused {use : Use} : Leaves ⟨use, .error (.refused poisonError)⟩ ByteArray.empty
  | flushed : Leaves ⟨.flush, .ok ()⟩ ByteArray.empty
  | unflushed {reason : String} :
      Leaves ⟨.flush, .error (.refused (.io reason))⟩ ByteArray.empty

/-! ## One call -/

variable {stream : Stream}

theorem attempt_writeText (hsound : stream.poisoned = false) (text : String) :
    stream.Attempt text.toUTF8 (stream.writeText text) := by
  rw [writeText, if_neg (by simp [hsound])]
  exact stream.attempt_writeBytes text.toUTF8

theorem ask_of_poisoned (hpoisoned : stream.poisoned = true) (use : Use) :
    stream.ask use = (.error (.refused poisonError), stream) := by
  cases use with
  | write text => exact writeText_of_poisoned hpoisoned text
  | flush =>
    rw [ask, flush_of_poisoned hpoisoned]
    rfl

/-- A flush that is heard is answered as the writer answers. -/
theorem ask_flush (hsound : stream.poisoned = false) :
    ((stream.ask .flush).1 = .ok () ∨
      ∃ reason, (stream.ask .flush).1 = .error (.refused (.io reason))) ∧
    (stream.ask .flush).2.poisoned = false := by
  rw [ask, flush, if_neg (by simp [hsound])]
  dsimp only
  rcases stream.writer.flushFailure stream.progress with - | reason
  · exact ⟨Or.inl rfl, hsound⟩
  · exact ⟨Or.inr ⟨reason, rfl⟩, hsound⟩

/-- The outcome of a call that is heard.  The record grows by what the call leaves with the writer,
and the stream is poisoned just if the writer dies of it. -/
structure Heard (stream : Stream) (use : Use) (result : Except Halt Unit × Stream) : Prop where
  leaves : ∃ part, Call.Leaves ⟨use, result.1⟩ part ∧ result.2.contents = stream.contents ++ part
  answered : result.1 ≠ .error (.refused poisonError)
  poisoned_iff : result.2.poisoned = true ↔ result.1 = .error .panicked

theorem Attempt.heard {text : String} {result : Except Halt Unit × Stream}
    (hattempt : stream.Attempt text.toUTF8 result) (hsound : stream.poisoned = false) :
    stream.Heard (.write text) result := by
  cases hattempt with
  | done hcontents hafter =>
    exact ⟨⟨_, .written, hcontents⟩, nofun, by simp [hafter, hsound]⟩
  | cut hpart hrest hcontents hafter =>
    exact ⟨⟨_, .cut hpart hrest, hcontents⟩, nofun, by simp [hafter, hsound]⟩
  | died hpart hrest hcontents hafter =>
    exact ⟨⟨_, .died hpart hrest, hcontents⟩, nofun, by simp [hafter]⟩

theorem heard_flush (hsound : stream.poisoned = false) :
    stream.Heard .flush (stream.ask .flush) := by
  have hcontents : (stream.ask .flush).2.contents = stream.contents ++ ByteArray.empty := by
    rw [ByteArray.append_empty]
    exact stream.contents_flush
  obtain ⟨hanswer, hafter⟩ := ask_flush hsound
  rcases hanswer with hok | ⟨reason, hfailed⟩
  · exact ⟨⟨_, hok ▸ .flushed, hcontents⟩, hok ▸ nofun, by simp [hok, hafter]⟩
  · exact ⟨⟨_, hfailed ▸ .unflushed, hcontents⟩, hfailed ▸ nofun, by simp [hfailed, hafter]⟩

/-- A stream that is not poisoned hears every call. -/
theorem heard_ask (hsound : stream.poisoned = false) (use : Use) :
    stream.Heard use (stream.ask use) := by
  cases use with
  | write text => exact (attempt_writeText hsound text).heard hsound
  | flush => exact heard_flush hsound

theorem ask_leaves (stream : Stream) (use : Use) :
    ∃ part, Call.Leaves ⟨use, (stream.ask use).1⟩ part ∧
      (stream.ask use).2.contents = stream.contents ++ part := by
  cases hpoisoned : stream.poisoned with
  | true =>
    rw [ask_of_poisoned hpoisoned]
    exact ⟨_, .refused, by rw [ByteArray.append_empty]⟩
  | false => exact (heard_ask hpoisoned use).leaves

/-- A call is refused unheard if the stream is poisoned, and only then. -/
theorem ask_refused_iff (stream : Stream) (use : Use) :
    (stream.ask use).1 = .error (.refused poisonError) ↔ stream.poisoned = true := by
  cases hpoisoned : stream.poisoned with
  | true => simp [ask_of_poisoned hpoisoned]
  | false => exact iff_of_false (heard_ask hpoisoned use).answered (by decide)

/-- A stream is poisoned by a call of which the writer dies, and stays so. -/
theorem poisoned_ask (stream : Stream) (use : Use) :
    (stream.ask use).2.poisoned = true ↔
      stream.poisoned = true ∨ (stream.ask use).1 = .error .panicked := by
  cases hpoisoned : stream.poisoned with
  | true => simp [ask_of_poisoned hpoisoned, hpoisoned]
  | false =>
    rw [(heard_ask hpoisoned use).poisoned_iff]
    simp

/-! ## Many calls -/

/-- The stream has recorded what the calls have left with the writer, in the order in which they
were made, and has refused to hear just those that came after the death of the writer. -/
structure Faithful (stream : Stream) (calls : List Call) (after : Stream) : Prop where
  recorded : ∃ parts, List.Forall₂ Call.Leaves calls parts ∧
    after.contents = parts.foldl (· ++ ·) stream.contents
  refused : ∀ before call rest, calls = before ++ call :: rest →
    (call.answer = .error (.refused poisonError) ↔
      ∃ earlier ∈ before, earlier.answer = .error .panicked)

theorem after_append (stream : Stream) (first second : List Use) :
    stream.after (first ++ second) = (stream.after first).after second := List.foldl_append

/-- The induction is on the uses. -/
theorem recorded_calls (stream : Stream) (uses : List Use) :
    ∃ parts, List.Forall₂ Call.Leaves (stream.calls uses) parts ∧
      (stream.after uses).contents = parts.foldl (· ++ ·) stream.contents := by
  induction uses generalizing stream with
  | nil => exact ⟨[], .nil, rfl⟩
  | cons use rest ih =>
    obtain ⟨part, hleaves, hcontents⟩ := stream.ask_leaves use
    obtain ⟨parts, hparts, hafter⟩ := ih (stream.ask use).2
    refine ⟨part :: parts, .cons hleaves hparts, ?_⟩
    rw [List.foldl_cons, ← hcontents, ← hafter]
    rfl

/-- The induction is on the calls before.  The poison is what is handed on from one to the
next. -/
theorem refused_calls {stream : Stream} {uses : List Use} {before rest : List Call} {call : Call}
    (hcalls : stream.calls uses = before ++ call :: rest) :
    call.answer = .error (.refused poisonError) ↔
      stream.poisoned = true ∨ ∃ earlier ∈ before, earlier.answer = .error .panicked := by
  induction before generalizing stream uses with
  | nil =>
    cases uses with
    | nil => cases hcalls
    | cons use later =>
      obtain ⟨rfl, -⟩ := List.cons.inj hcalls
      simpa using stream.ask_refused_iff use
  | cons first before ih =>
    cases uses with
    | nil => cases hcalls
    | cons use later =>
      obtain ⟨rfl, hlater⟩ := List.cons.inj hcalls
      rw [ih hlater, poisoned_ask, or_assoc]
      simp

/-- Whatever the writer does, and however the stream is used, the record and the answers agree. -/
theorem faithful_calls (hsound : stream.poisoned = false) (uses : List Use) :
    stream.Faithful (stream.calls uses) (stream.after uses) where
  recorded := stream.recorded_calls uses
  refused before call rest hcalls := by
    rw [refused_calls hcalls, hsound]
    simp

/-! ## Streams that never run full -/

/-- The text that the use adds to what was written. -/
def Use.text : Use → String
  | .write text => text
  | .flush => ""

theorem Boundless.ask (hboundless : stream.Boundless) (use : Use) :
    ∃ after, stream.ask use = (.ok (), after) ∧ stream.Received use.text.toUTF8 after := by
  cases use with
  | write text => exact (hboundless _).writeText (Nat.le_refl _)
  | flush =>
    refine ⟨stream.flush.2, ?_, (Received.refl stream).flush⟩
    rw [Stream.ask, (hboundless 0).flush_eq]
    rfl

/-- Such a stream answers every use well.  The induction is on the uses. -/
theorem Boundless.received_after (hboundless : stream.Boundless) (uses : List Use) :
    (∀ call ∈ stream.calls uses, call.answer = .ok ()) ∧
      stream.Received (String.join (uses.map Use.text)).toUTF8 (stream.after uses) := by
  induction uses generalizing stream with
  | nil => exact ⟨by simp [calls], .refl stream⟩
  | cons use rest ih =>
    obtain ⟨next, hask, hreceived⟩ := hboundless.ask use
    obtain ⟨hanswers, hrest⟩ := ih (hreceived.boundless hboundless)
    constructor
    · rw [calls, hask]
      exact List.forall_mem_cons.mpr ⟨rfl, hanswers⟩
    · rw [List.map_cons, String.join_cons, String.toUTF8_eq_toByteArray,
        String.toByteArray_append, after, List.foldl_cons, hask]
      exact hreceived.trans hrest

/-- What is shown of the buffer is what was written. -/
theorem shown_buffer (uses : List Use) :
    Text.Utf8.lossy (buffer.after uses).contents = String.join (uses.map Use.text) := by
  have hcontents := (boundless_buffer.received_after uses).2.contents
  rw [show buffer.contents = ByteArray.empty from rfl, ByteArray.empty_append] at hcontents
  rw [hcontents, Text.Utf8.lossy_toUTF8]

end PassPipeline.Stream
