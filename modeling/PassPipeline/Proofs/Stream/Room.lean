import PassPipeline.Proofs.Stream.Writing

/-!
# Streams that run full

A stream has room for so many bytes (`Spares`) if its writer goes on taking something until it
has taken them.  How much it takes of an offer makes no difference: a text that fits is taken
whole (`Spares.writeText`).  A stream has room for no more than that (`Limited`) if its writer
then takes nothing, or fails; a text that does not fit is taken as far as there is room, and
refused (`Limited.writeText_cut`).
-/

namespace PassPipeline.Stream

variable {stream middle after : Stream} {bytes more : ByteArray} {room : Nat}

/-! ## What has been taken -/

/-- The writer has taken the bytes, and is none the worse for it. -/
structure Received (stream : Stream) (bytes : ByteArray) (after : Stream) : Prop where
  writer : after.writer = stream.writer
  poisoned : after.poisoned = stream.poisoned
  taken : after.progress.taken = stream.progress.taken + bytes.size
  contents : after.contents = stream.contents ++ bytes

theorem Received.refl (stream : Stream) : stream.Received ByteArray.empty stream where
  writer := rfl
  poisoned := rfl
  taken := by simp
  contents := by simp

theorem Received.trans (hfirst : stream.Received bytes middle)
    (hsecond : middle.Received more after) : stream.Received (bytes ++ more) after where
  writer := hsecond.writer.trans hfirst.writer
  poisoned := hsecond.poisoned.trans hfirst.poisoned
  taken := by rw [hsecond.taken, hfirst.taken, ByteArray.size_append, Nat.add_assoc]
  contents := by rw [hsecond.contents, hfirst.contents, ByteArray.append_assoc]

theorem size_extract_of_le {count : Nat} (hcount : count ≤ bytes.size) :
    (bytes.extract 0 count).size = count := by
  rw [ByteArray.size_extract, Nat.sub_zero, Nat.min_eq_left hcount]

theorem received_take (stream : Stream) {count : Nat} (hcount : count ≤ bytes.size) :
    stream.Received (bytes.extract 0 count) (stream.take bytes count) where
  writer := rfl
  poisoned := rfl
  taken := by
    rw [size_extract_of_le hcount]
    rfl
  contents := rfl

theorem received_refuse (stream : Stream) : stream.Received ByteArray.empty stream.refuse :=
  ⟨rfl, rfl, (Received.refl stream).taken, (Received.refl stream).contents⟩

/-- A flush that does not fail leaves what was taken. -/
theorem Received.flush (hreceived : stream.Received bytes after) :
    stream.Received bytes after.flush.2 := by
  rw [Stream.flush]
  split
  · exact hreceived
  · dsimp only
    split
    · exact ⟨hreceived.writer, hreceived.poisoned, hreceived.taken, hreceived.contents⟩
    · exact ⟨hreceived.writer, hreceived.poisoned, hreceived.taken, hreceived.contents⟩

/-- The first part of a text is the first part of what is left after some of it was taken. -/
theorem extract_after_take {count : Nat} (hcount : count ≤ room) (hroom : room ≤ bytes.size) :
    bytes.extract 0 count ++ (bytes.extract count bytes.size).extract 0 (room - count) =
      bytes.extract 0 room := by
  have hmiddle : min (count + (room - count)) bytes.size = room := by omega
  rw [ByteArray.extract_extract, Nat.add_zero, hmiddle,
    ← ByteArray.extract_eq_extract_append_extract count (Nat.zero_le _) hcount]

theorem extract_of_size_le (hfits : bytes.size ≤ room) : bytes.extract 0 room = bytes := by
  ext1
  rw [ByteArray.data_extract, Array.extract_eq_self_of_le hfits]

theorem extract_append_of_le (hroom : room ≤ bytes.size) :
    (bytes ++ more).extract 0 room = bytes.extract 0 room := by
  rw [ByteArray.extract_append, Nat.zero_sub, Nat.sub_eq_zero_of_le hroom, ByteArray.extract_same,
    ByteArray.append_empty]

theorem extract_append_of_size_le (hfits : bytes.size ≤ room) :
    (bytes ++ more).extract 0 room = bytes ++ more.extract 0 (room - bytes.size) := by
  rw [ByteArray.extract_append, Nat.zero_sub, extract_of_size_le hfits]

/-! ## Room -/

/-- The writer is alive and goes on taking until it has taken so many bytes more.  It passes on
what it holds whenever it is asked. -/
structure Spares (stream : Stream) (room : Nat) : Prop where
  sound : stream.poisoned = false
  takes : ∀ progress bytes, bytes.size ≠ 0 →
    progress.taken < stream.progress.taken + room →
      ∃ count, stream.writer.offer progress bytes = .took (count + 1)
  flushes : ∀ progress, stream.writer.flushFailure progress = none

theorem Spares.mono (hspares : stream.Spares room) {less : Nat} (hless : less ≤ room) :
    stream.Spares less where
  sound := hspares.sound
  takes progress bytes hsome htaken := hspares.takes progress bytes hsome (by omega)
  flushes := hspares.flushes

theorem Received.spares (hreceived : stream.Received bytes after) (hspares : stream.Spares room)
    (hfits : bytes.size ≤ room) : after.Spares (room - bytes.size) where
  sound := hreceived.poisoned.trans hspares.sound
  takes progress offered hsome htaken := by
    rw [hreceived.writer]
    refine hspares.takes progress offered hsome ?_
    rw [hreceived.taken] at htaken
    omega
  flushes := by
    rw [hreceived.writer]
    exact hspares.flushes

theorem Spares.offer (hspares : stream.Spares room) (hsome : bytes.size ≠ 0)
    (hfits : bytes.size ≤ room) :
    ∃ count, stream.writer.offer stream.progress bytes = .took (count + 1) :=
  hspares.takes stream.progress bytes hsome (by omega)

/-- The induction is on the offers that are made. -/
theorem Spares.writeBytes (hspares : stream.Spares room) (hfits : bytes.size ≤ room) :
    ∃ after, stream.writeBytes bytes = (.ok (), after) ∧ stream.Received bytes after := by
  induction stream, bytes using Stream.writeBytes.induct generalizing room with
  | case1 stream bytes hempty =>
    obtain rfl : bytes = ByteArray.empty := ByteArray.size_eq_zero_iff.mp hempty
    exact ⟨stream, by rw [Stream.writeBytes, if_pos hempty], .refl stream⟩
  | case2 stream bytes hsome reason hoffer =>
    obtain ⟨count, htook⟩ := hspares.offer hsome hfits
    cases hoffer.symm.trans htook
  | case3 stream bytes hsome hoffer =>
    obtain ⟨count, htook⟩ := hspares.offer hsome hfits
    cases hoffer.symm.trans htook
  | case4 stream bytes hsome hoffer =>
    obtain ⟨count, htook⟩ := hspares.offer hsome hfits
    cases hoffer.symm.trans htook
  | case5 stream bytes hsome count hoffer ih =>
    have hcount : min (count + 1) bytes.size ≤ bytes.size := Nat.min_le_right ..
    have hsize := size_extract_of_le hcount
    have htaken := received_take stream hcount
    have hleft := htaken.spares hspares (by omega)
    obtain ⟨after, hwrite, hafter⟩ := ih hleft (by rw [ByteArray.size_extract, hsize]; omega)
    refine ⟨after, ?_, ?_⟩
    · rw [Stream.writeBytes, if_neg hsome, hoffer]
      exact hwrite
    · have hboth := htaken.trans hafter
      rwa [← ByteArray.extract_eq_extract_append_extract _ (Nat.zero_le _) hcount,
        ByteArray.extract_zero_size] at hboth

theorem Spares.writeText (hspares : stream.Spares room) {text : String}
    (hfits : text.toUTF8.size ≤ room) :
    ∃ after, stream.writeText text = (.ok (), after) ∧ stream.Received text.toUTF8 after := by
  obtain ⟨after, hwrite, hafter⟩ := hspares.writeBytes hfits
  refine ⟨after, ?_, hafter⟩
  rw [Stream.writeText, if_neg (by simp [hspares.sound]), hwrite]

theorem Spares.flush_eq (hspares : stream.Spares room) :
    stream.flush = (.ok (), stream.flush.2) := by
  rw [Stream.flush, if_neg (by simp [hspares.sound])]
  simp only [hspares.flushes]

theorem Spares.publish (hspares : stream.Spares room) {text : String}
    (hfits : text.toUTF8.size ≤ room) :
    ∃ after, stream.publish text = (.ok (), after) ∧ stream.Received text.toUTF8 after := by
  obtain ⟨written, hwrite, hwritten⟩ := hspares.writeText hfits
  have hflush := (hwritten.spares hspares hfits).flush_eq
  refine ⟨written.flush.2, ?_, hwritten.flush⟩
  rw [Stream.publish, hwrite]
  dsimp only
  rw [hflush]

/-! ## Streams that never run full -/

/-- There is room for anything. -/
def Boundless (stream : Stream) : Prop := ∀ room, stream.Spares room

theorem Received.boundless (hreceived : stream.Received bytes after)
    (hboundless : stream.Boundless) : after.Boundless := by
  intro room
  have hspares := hreceived.spares (hboundless (bytes.size + room)) (Nat.le_add_right ..)
  rwa [Nat.add_sub_cancel_left] at hspares

theorem Boundless.accepts (hboundless : stream.Boundless) : stream.Accepts where
  sound := (hboundless 0).sound
  takes progress bytes hsome :=
    (hboundless (progress.taken + 1)).takes progress bytes hsome (by omega)

theorem boundless_buffer : Stream.buffer.Boundless := fun _ =>
  { sound := rfl
    takes := fun progress bytes hsome _ => accepts_buffer.takes progress bytes hsome
    flushes := fun _ => rfl }

/-- It may be little that is taken at a time. -/
theorem boundless_chunked {size : Nat} (hsize : 1 ≤ size) :
    (ofWriter (.chunked size)).Boundless := fun _ =>
  { sound := rfl
    takes := fun progress bytes hsome _ => by
      obtain ⟨count, hcount⟩ : ∃ count, min size bytes.size = count + 1 :=
        Nat.exists_eq_succ_of_ne_zero (by omega)
      exact ⟨count, congrArg Reply.took hcount⟩
    flushes := fun _ => rfl }

/-! ## Streams that run full -/

/-- There is room for so many bytes, and for no more. -/
structure Limited (stream : Stream) (room : Nat) : Prop extends stream.Spares room where
  stays : ∀ progress bytes count, bytes.size ≠ 0 →
    progress.taken < stream.progress.taken + room →
      stream.writer.offer progress bytes = .took count →
        progress.taken + min count bytes.size ≤ stream.progress.taken + room
  refuses : ∀ progress bytes, bytes.size ≠ 0 →
    stream.progress.taken + room ≤ progress.taken →
      stream.writer.offer progress bytes = .took 0 ∨
        ∃ reason, stream.writer.offer progress bytes = .failed reason

theorem Received.limited (hreceived : stream.Received bytes after) (hlimited : stream.Limited room)
    (hfits : bytes.size ≤ room) : after.Limited (room - bytes.size) where
  toSpares := hreceived.spares hlimited.toSpares hfits
  stays progress offered count hsome htaken hoffer := by
    rw [hreceived.taken] at htaken ⊢
    rw [hreceived.writer] at hoffer
    have hstays := hlimited.stays progress offered count hsome (by omega) hoffer
    omega
  refuses progress offered hsome htaken := by
    rw [hreceived.taken] at htaken
    rw [hreceived.writer]
    exact hlimited.refuses progress offered hsome (by omega)

theorem limited_limited (budget : Nat) : (ofWriter (.limited budget)).Limited budget where
  sound := rfl
  takes progress bytes hsome htaken := by
    obtain ⟨count, hcount⟩ :
        ∃ count, min (budget - progress.taken) bytes.size = count + 1 := by
      refine Nat.exists_eq_succ_of_ne_zero ?_
      simp only [ofWriter] at htaken
      omega
    exact ⟨count, congrArg Reply.took hcount⟩
  flushes _ := rfl
  stays progress bytes count _ htaken hoffer := by
    obtain rfl : min (budget - progress.taken) bytes.size = count := Reply.took.inj hoffer
    simp only [ofWriter] at htaken ⊢
    omega
  refuses progress bytes _ htaken := by
    have hnone : min (budget - progress.taken) bytes.size = 0 := by
      simp only [ofWriter] at htaken
      omega
    exact Or.inl (congrArg Reply.took hnone)

theorem limited_failing (budget : Nat) (reason : String) :
    (ofWriter (.failing budget reason)).Limited budget where
  sound := rfl
  takes progress bytes hsome htaken := by
    rw [ofWriter, Nat.zero_add] at htaken
    obtain ⟨count, hcount⟩ :
        ∃ count, min (budget - progress.taken) bytes.size = count + 1 :=
      Nat.exists_eq_succ_of_ne_zero (by omega)
    exact ⟨count, (if_pos htaken).trans (congrArg Reply.took hcount)⟩
  flushes _ := rfl
  stays progress bytes count _ htaken hoffer := by
    rw [ofWriter, Nat.zero_add] at htaken ⊢
    obtain rfl : min (budget - progress.taken) bytes.size = count :=
      Reply.took.inj ((if_pos htaken).symm.trans hoffer)
    omega
  refuses progress bytes _ htaken := by
    rw [ofWriter, Nat.zero_add] at htaken
    exact Or.inr ⟨reason, if_neg (Nat.not_lt.mpr htaken)⟩

/-- An offer is refused if there is no room left, and otherwise something of it is taken. -/
theorem Limited.offer_cases (hlimited : stream.Limited room) (hsome : bytes.size ≠ 0) :
    (room = 0 ∧ (stream.writer.offer stream.progress bytes = .took 0 ∨
      ∃ reason, stream.writer.offer stream.progress bytes = .failed reason)) ∨
    ∃ count, stream.writer.offer stream.progress bytes = .took (count + 1) ∧
      min (count + 1) bytes.size ≤ room := by
  rcases Nat.eq_zero_or_pos room with rfl | hroom
  · exact Or.inl ⟨rfl, hlimited.refuses stream.progress bytes hsome (Nat.le_refl _)⟩
  · obtain ⟨count, htook⟩ := hlimited.takes stream.progress bytes hsome (by omega)
    have hstays := hlimited.stays stream.progress bytes (count + 1) hsome (by omega) htook
    exact Or.inr ⟨count, htook, by omega⟩

theorem received_nothing (stream : Stream) (bytes : ByteArray) :
    stream.Received (bytes.extract 0 0) stream.refuse := by
  rw [ByteArray.extract_same]
  exact received_refuse stream

/-- The induction is on the offers that are made.  There is less room after each. -/
theorem Limited.writeBytes_cut (hlimited : stream.Limited room) (hcut : room < bytes.size) :
    ∃ reason after, stream.writeBytes bytes = (.error (.refused (.io reason)), after) ∧
      stream.Received (bytes.extract 0 room) after := by
  induction stream, bytes using Stream.writeBytes.induct generalizing room with
  | case1 stream bytes hempty => omega
  | case2 stream bytes hsome reason hoffer =>
    rcases hlimited.offer_cases hsome with ⟨rfl, -⟩ | ⟨_, htook, -⟩
    · exact ⟨reason, _, by rw [Stream.writeBytes, if_neg hsome, hoffer],
        received_nothing stream bytes⟩
    · cases hoffer.symm.trans htook
  | case3 stream bytes hsome hoffer =>
    rcases hlimited.offer_cases hsome with ⟨-, htook | ⟨_, hfailed⟩⟩ | ⟨_, htook, -⟩
    · cases hoffer.symm.trans htook
    · cases hoffer.symm.trans hfailed
    · cases hoffer.symm.trans htook
  | case4 stream bytes hsome hoffer =>
    rcases hlimited.offer_cases hsome with ⟨rfl, -⟩ | ⟨_, htook, -⟩
    · exact ⟨_, _, by rw [Stream.writeBytes, if_neg hsome, hoffer]; rfl,
        received_nothing stream bytes⟩
    · cases hoffer.symm.trans htook
  | case5 stream bytes hsome count hoffer ih =>
    -- What is taken fits, and the rest still does not fit into what is left.
    have hwithin : min (count + 1) bytes.size ≤ room := by
      rcases hlimited.offer_cases hsome with ⟨-, htook | ⟨_, hfailed⟩⟩ | ⟨_, htook, hwithin⟩
      · cases hoffer.symm.trans htook
      · cases hoffer.symm.trans hfailed
      · cases hoffer.symm.trans htook
        exact hwithin
    have hcount : min (count + 1) bytes.size ≤ bytes.size := Nat.min_le_right ..
    have hsize := size_extract_of_le hcount
    have htaken := received_take stream hcount
    have hleft := htaken.limited hlimited (by omega)
    rw [hsize] at hleft
    obtain ⟨reason, after, hwrite, hafter⟩ := ih hleft (by rw [ByteArray.size_extract]; omega)
    refine ⟨reason, after, ?_, ?_⟩
    · rw [Stream.writeBytes, if_neg hsome, hoffer]
      exact hwrite
    · have hboth := htaken.trans hafter
      rwa [extract_after_take hwithin (Nat.le_of_lt hcut)] at hboth

theorem Limited.writeText_cut (hlimited : stream.Limited room) {text : String}
    (hcut : room < text.toUTF8.size) :
    ∃ reason after, stream.writeText text = (.error (.refused (.io reason)), after) ∧
      stream.Received (text.toUTF8.extract 0 room) after := by
  obtain ⟨reason, after, hwrite, hafter⟩ := hlimited.writeBytes_cut hcut
  refine ⟨reason, after, ?_, hafter⟩
  rw [Stream.writeText, if_neg (by simp [hlimited.sound]), hwrite]

theorem Limited.publish_cut (hlimited : stream.Limited room) {text : String}
    (hcut : room < text.toUTF8.size) :
    ∃ reason after, stream.publish text = (.error (.refused (.io reason)), after) ∧
      stream.Received (text.toUTF8.extract 0 room) after := by
  obtain ⟨reason, after, hwrite, hafter⟩ := hlimited.writeText_cut hcut
  exact ⟨reason, after, by rw [Stream.publish, hwrite], hafter⟩

end PassPipeline.Stream
