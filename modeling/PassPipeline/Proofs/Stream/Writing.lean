import PassPipeline.Stream.Sink

/-!
# What a stream records

A stream offers bytes to its writer until all of them are taken.  However the writer goes
about it, the stream records a first part of what it was given to write, and all of it just
if the writing succeeds (`attempt_writeBytes`).  A flush adds nothing to that (`takes_publish`).
It succeeds if the writer never refuses an offer altogether (`Accepts.writeText`).
-/

namespace PassPipeline.Stream

variable {stream : Stream} {bytes : ByteArray}

/-- How an attempt to write bytes ends.  Only a writer that dies poisons the stream. -/
inductive Attempt (stream : Stream) (bytes : ByteArray) : Except Halt Unit × Stream → Prop
  | done {after : Stream} (hcontents : after.contents = stream.contents ++ bytes)
      (hpoisoned : after.poisoned = stream.poisoned) : Attempt stream bytes (.ok (), after)
  | cut {reason : String} {part rest : ByteArray} {after : Stream} (hpart : part ++ rest = bytes)
      (hrest : rest ≠ ByteArray.empty) (hcontents : after.contents = stream.contents ++ part)
      (hpoisoned : after.poisoned = stream.poisoned) :
      Attempt stream bytes (.error (.refused (.io reason)), after)
  | died {part rest : ByteArray} {after : Stream} (hpart : part ++ rest = bytes)
      (hrest : rest ≠ ByteArray.empty) (hcontents : after.contents = stream.contents ++ part)
      (hpoisoned : after.poisoned = true) : Attempt stream bytes (.error .panicked, after)

/-- What was taken of one offer comes before what is taken of the rest. -/
theorem Attempt.after_take {count : Nat} (hcount : count ≤ bytes.size)
    {result : Except Halt Unit × Stream}
    (hattempt : (stream.take bytes count).Attempt (bytes.extract count bytes.size) result) :
    stream.Attempt bytes result := by
  have hjoin : bytes.extract 0 count ++ bytes.extract count bytes.size = bytes := by
    rw [← ByteArray.extract_eq_extract_append_extract count (Nat.zero_le _) hcount]
    exact ByteArray.extract_zero_size
  have hmore : ∀ {part rest : ByteArray}, part ++ rest = bytes.extract count bytes.size →
      bytes.extract 0 count ++ part ++ rest = bytes := by
    intro part rest hpart
    rw [ByteArray.append_assoc, hpart, hjoin]
  cases hattempt with
  | done hcontents hpoisoned =>
    refine .done ?_ hpoisoned
    rw [hcontents, take, ByteArray.append_assoc, hjoin]
  | cut hpart hrest hcontents hpoisoned =>
    refine .cut (hmore hpart) hrest ?_ hpoisoned
    rw [hcontents, take, ByteArray.append_assoc]
  | died hpart hrest hcontents hpoisoned =>
    refine .died (hmore hpart) hrest ?_ hpoisoned
    rw [hcontents, take, ByteArray.append_assoc]

theorem attempt_writeBytes (stream : Stream) (bytes : ByteArray) :
    stream.Attempt bytes (stream.writeBytes bytes) := by
  -- A refused offer leaves bytes to be written, and the record as it was.
  have hrefused : ∀ {bytes : ByteArray}, bytes.size ≠ 0 →
      ByteArray.empty ++ bytes = bytes ∧ bytes ≠ ByteArray.empty := by
    intro bytes hsome
    exact ⟨ByteArray.empty_append, fun hnone => hsome (ByteArray.size_eq_zero_iff.mpr hnone)⟩
  have hrecord : ∀ stream : Stream,
      stream.refuse.contents = stream.contents ++ ByteArray.empty := by
    intro stream
    rw [ByteArray.append_empty]
    rfl
  induction stream, bytes using writeBytes.induct with
  | case1 stream bytes hempty =>
    rw [writeBytes, if_pos hempty]
    obtain rfl := ByteArray.size_eq_zero_iff.mp hempty
    exact .done (by rw [ByteArray.append_empty]) rfl
  | case2 stream bytes hsome reason hoffer =>
    rw [writeBytes, if_neg hsome, hoffer]
    exact .cut (hrefused hsome).1 (hrefused hsome).2 (hrecord stream) rfl
  | case3 stream bytes hsome hoffer =>
    rw [writeBytes, if_neg hsome, hoffer]
    exact .died (hrefused hsome).1 (hrefused hsome).2 (hrecord stream) rfl
  | case4 stream bytes hsome hoffer =>
    rw [writeBytes, if_neg hsome, hoffer]
    exact .cut (hrefused hsome).1 (hrefused hsome).2 (hrecord stream) rfl
  | case5 stream bytes hsome count hoffer ih =>
    rw [writeBytes, if_neg hsome, hoffer]
    exact ih.after_take (Nat.min_le_right _ _)

/-- The outcome of an attempt to write bytes: a first part of them has been recorded, and all
of them if nothing is reported. -/
def Takes (stream : Stream) (bytes : ByteArray) (result : Except Halt Unit × Stream) : Prop :=
  ∃ written rest, written ++ rest = bytes ∧ result.2.contents = stream.contents ++ written ∧
    (result.1 = .ok () → rest = ByteArray.empty)

theorem takes_nothing {after : Stream} {halt : Halt}
    (hcontents : after.contents = stream.contents) :
    stream.Takes bytes (.error halt, after) :=
  ⟨ByteArray.empty, bytes, by simp, by simp [hcontents], nofun⟩

theorem Attempt.takes {result : Except Halt Unit × Stream}
    (hattempt : stream.Attempt bytes result) : stream.Takes bytes result := by
  cases hattempt with
  | done hcontents _ =>
    exact ⟨bytes, ByteArray.empty, ByteArray.append_empty, hcontents, fun _ => rfl⟩
  | cut hpart _ hcontents _ => exact ⟨_, _, hpart, hcontents, nofun⟩
  | died hpart _ hcontents _ => exact ⟨_, _, hpart, hcontents, nofun⟩

theorem takes_writeBytes (stream : Stream) (bytes : ByteArray) :
    stream.Takes bytes (stream.writeBytes bytes) := (stream.attempt_writeBytes bytes).takes

theorem takes_writeText (stream : Stream) (text : String) :
    stream.Takes text.toUTF8 (stream.writeText text) := by
  rw [writeText]
  split
  · exact takes_nothing rfl
  · exact stream.takes_writeBytes text.toUTF8

/-- Writes a text and asks the writer to pass it on. -/
def publish (stream : Stream) (text : String) : Except Halt Unit × Stream :=
  match stream.writeText text with
  | (.error halt, written) => (.error halt, written)
  | (.ok (), written) =>
    match written.flush with
    | (.error error, flushed) => (.error (.refused error), flushed)
    | (.ok (), flushed) => (.ok (), flushed)

theorem takes_publish (stream : Stream) (text : String) :
    stream.Takes text.toUTF8 (stream.publish text) := by
  have htakes := stream.takes_writeText text
  rw [publish]
  rcases hwrite : stream.writeText text with ⟨halt | ⟨⟩, written⟩ <;> rw [hwrite] at htakes
  · exact htakes
  · obtain ⟨taken, rest, hrest, hcontents, hall⟩ := htakes
    have hflush := written.contents_flush
    dsimp only
    rcases hflushed : written.flush with ⟨error | ⟨⟩, flushed⟩ <;> rw [hflushed] at hflush
    · exact ⟨taken, rest, hrest, hflush.trans hcontents, nofun⟩
    · exact ⟨taken, rest, hrest, hflush.trans hcontents, fun _ => hall rfl⟩

/-! ## Streams that accept everything -/

/-- The writer is alive and takes something of whatever it is offered. -/
structure Accepts (stream : Stream) : Prop where
  sound : stream.poisoned = false
  takes : ∀ progress bytes, bytes.size ≠ 0 →
    ∃ count, stream.writer.offer progress bytes = .took (count + 1)

theorem accepts_buffer : Stream.buffer.Accepts where
  sound := rfl
  takes progress bytes hsome := by
    obtain ⟨count, hcount⟩ := Nat.exists_eq_succ_of_ne_zero hsome
    exact ⟨count, congrArg Reply.took hcount⟩

theorem Accepts.writeBytes (haccepts : stream.Accepts) (bytes : ByteArray) :
    (stream.writeBytes bytes).1 = .ok () ∧ (stream.writeBytes bytes).2.Accepts := by
  induction stream, bytes using writeBytes.induct with
  | case1 stream bytes hempty =>
      rw [Stream.writeBytes, if_pos hempty]
      exact ⟨rfl, haccepts⟩
  | case2 stream bytes hsome reason hoffer =>
      obtain ⟨count, htook⟩ := haccepts.takes stream.progress bytes hsome
      cases hoffer.symm.trans htook
  | case3 stream bytes hsome hoffer =>
      obtain ⟨count, htook⟩ := haccepts.takes stream.progress bytes hsome
      cases hoffer.symm.trans htook
  | case4 stream bytes hsome hoffer =>
      obtain ⟨count, htook⟩ := haccepts.takes stream.progress bytes hsome
      cases hoffer.symm.trans htook
  | case5 stream bytes hsome count hoffer ih =>
      rw [Stream.writeBytes, if_neg hsome, hoffer]
      exact ih ⟨haccepts.sound, haccepts.takes⟩

/-- Such a stream takes the whole text, and goes on accepting everything. -/
theorem Accepts.writeText (haccepts : stream.Accepts) (text : String) :
    ∃ after, stream.writeText text = (.ok (), after) ∧
      after.contents = stream.contents ++ text.toUTF8 ∧ after.Accepts := by
  obtain ⟨hok, hafter⟩ := haccepts.writeBytes text.toUTF8
  have hwrite : stream.writeText text = stream.writeBytes text.toUTF8 := by
    rw [Stream.writeText, haccepts.sound]
    rfl
  obtain ⟨written, rest, hrest, hcontents, hall⟩ := stream.takes_writeBytes text.toUTF8
  rw [hall hok, ByteArray.append_empty] at hrest
  exact ⟨_, hwrite.trans (Prod.ext hok rfl), by rw [hcontents, hrest], hafter⟩

end PassPipeline.Stream
