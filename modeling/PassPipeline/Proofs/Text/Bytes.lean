import Mathlib.Data.List.TakeDrop
import Mathlib.Data.List.TakeWhile
import Mathlib.Tactic.Common
import PassPipeline.Text.Utf8

/-!
# Text and bytes

A name that stands before an equals sign can be told from what follows (`span_name`), in text and
in bytes alike: a byte below 128 in the encoding of a text is a character of it
(`mem_of_mem_bytes`).

What is shown of the bytes of a text is the text (`lossy_toUTF8`): the bytes of a character are
read one after the other, and nothing is replaced.  The first byte says how many are to follow
and in which range the second one lies.  The range leaves out what fewer bytes could say and what
is no character, so every other character is in it.
-/

namespace PassPipeline.Text

/-! ## What stands before something else -/

/-- A name ends at the first equals sign. -/
theorem span_name {α : Type} [DecidableEq α] {sign : α} {name : List α} (hplain : sign ∉ name)
    (value : List α) : (name ++ sign :: value).span (· ≠ sign) = (name, sign :: value) := by
  have hname : ∀ item ∈ name, decide (item ≠ sign) = true := by
    intro item hitem
    exact decide_eq_true fun heq => hplain (heq ▸ hitem)
  rw [List.span_eq_takeWhile_dropWhile, List.takeWhile_append_of_pos hname,
    List.dropWhile_append_of_pos hname]
  simp

theorem span_whole {α : Type} [DecidableEq α] {sign : α} {name : List α} (hplain : sign ∉ name) :
    name.span (· ≠ sign) = (name, []) := by
  have hname : ∀ item ∈ name, decide (item ≠ sign) = true := by
    intro item hitem
    exact decide_eq_true fun heq => hplain (heq ▸ hitem)
  rw [List.span_eq_takeWhile_dropWhile, List.takeWhile_eq_self_iff.mpr hname,
    List.dropWhile_eq_nil_iff.mpr hname]

theorem fromUTF8?_eq_some_iff {bytes : ByteArray} {text : String} :
    String.fromUTF8? bytes = some text ↔ bytes = text.toUTF8 := by
  rw [String.fromUTF8?]
  constructor
  · intro htext
    split at htext
    · cases htext
      rfl
    · cases htext
  · rintro rfl
    exact dif_pos text.isValidUTF8

/-- The bytes of an array, in order.  The induction is on the number of bytes that are left. -/
theorem toList_eq (bytes : ByteArray) : bytes.toList = bytes.data.toList := by
  have hloop : ∀ (left next : Nat) (done : List UInt8), next + left = bytes.size →
      ByteArray.toList.loop bytes next done = done.reverse ++ bytes.data.toList.drop next := by
    intro left
    induction left with
    | zero =>
      intro next done hnext
      have hlength : bytes.data.toList.length ≤ next := Nat.le_of_eq hnext.symm
      rw [ByteArray.toList.loop, if_neg (by omega), List.drop_eq_nil_of_le hlength,
        List.append_nil]
    | succ left ih =>
      intro next done hnext
      have hwithin : next < bytes.size := by omega
      have hlength : next < bytes.data.toList.length := hwithin
      have hbyte : bytes.get! next = bytes.data.toList[next] := by
        rw [ByteArray.get!]
        exact getElem!_pos bytes.data next hwithin
      rw [ByteArray.toList.loop, if_pos hwithin, ih _ _ (by omega),
        List.drop_eq_getElem_cons hlength, hbyte, List.reverse_cons, List.append_assoc,
        List.singleton_append]
  exact (hloop bytes.size 0 [] (Nat.zero_add _)).trans (by simp)

namespace Utf8

variable {shown : String}

/-! ## The bytes of a character -/

/-- The byte that says what the next six bits of a character are. -/
theorem step_next {owed code bits : Nat} {low high : UInt8} (hbits : bits < 64)
    (hlow : low.toNat ≤ bits + 128) (hhigh : bits + 128 ≤ high.toNat) :
    step (shown, some ⟨owed, low, high, code⟩) (UInt8.ofNat (bits + 128)) =
      if owed ≤ 1 then (shown.push (Char.ofNat (code * 64 + bits)), none)
      else (shown, some ⟨owed - 1, 0x80, 0xBF, code * 64 + bits⟩) := by
  have hbyte : (UInt8.ofNat (bits + 128)).toNat = bits + 128 := by
    rw [UInt8.toNat_ofNat']
    omega
  have hrange : low ≤ UInt8.ofNat (bits + 128) ∧ UInt8.ofNat (bits + 128) ≤ high := by
    rw [UInt8.le_iff_toNat_le, UInt8.le_iff_toNat_le, hbyte]
    exact ⟨hlow, hhigh⟩
  simp only [step, hrange, and_self, if_true, hbyte, Nat.add_sub_cancel]

theorem step_lead {b : UInt8} {begun : Begun} (hlead : lead? b = some begun) :
    step (shown, none) b = (shown, some begun) := by
  have hhigh : ¬ b < 0x80 := by
    intro hlow
    rw [UInt8.lt_iff_toNat_lt] at hlow
    simp only [lead?, UInt8.le_iff_toNat_le, ← UInt8.toNat_inj] at hlead
    simp at hlead hlow
    split_ifs at hlead <;> omega
  rw [step, start, if_neg hhigh, hlead]

theorem lead?_two {code : Nat} (hlow : 0x80 ≤ code) (hhigh : code < 0x800) :
    lead? (UInt8.ofNat (code / 64 % 32 + 192)) = some ⟨1, 0x80, 0xBF, code / 64⟩ := by
  have hbyte : (UInt8.ofNat (code / 64 % 32 + 192)).toNat = code / 64 + 192 := by
    rw [UInt8.toNat_ofNat']
    omega
  have hrange : 0xC2 ≤ UInt8.ofNat (code / 64 % 32 + 192) ∧
      UInt8.ofNat (code / 64 % 32 + 192) ≤ 0xDF := by
    rw [UInt8.le_iff_toNat_le, UInt8.le_iff_toNat_le, hbyte]
    simp
    omega
  rw [lead?, if_pos hrange, hbyte, Nat.add_sub_cancel]

/-- The second of three bytes lies in the range that is left for it. -/
theorem lead?_three {code : Nat} (hlow : 0x800 ≤ code) (hhigh : code < 0x10000)
    (hscalar : code < 0xD800 ∨ 0xDFFF < code) :
    ∃ low high : UInt8,
      lead? (UInt8.ofNat (code / 4096 % 16 + 224)) = some ⟨2, low, high, code / 4096⟩ ∧
      low.toNat ≤ code / 64 % 64 + 128 ∧ code / 64 % 64 + 128 ≤ high.toNat := by
  have hbyte : (UInt8.ofNat (code / 4096 % 16 + 224)).toNat = code / 4096 + 224 := by
    rw [UInt8.toNat_ofNat']
    omega
  generalize UInt8.ofNat (code / 4096 % 16 + 224) = b at hbyte
  simp only [lead?, UInt8.le_iff_toNat_le, ← UInt8.toNat_inj, hbyte]
  simp
  split_ifs <;> simp <;> omega

/-- The second of four bytes lies in the range that is left for it. -/
theorem lead?_four {code : Nat} (hlow : 0x10000 ≤ code) (hhigh : code < 0x110000) :
    ∃ low high : UInt8,
      lead? (UInt8.ofNat (code / 262144 % 8 + 240)) = some ⟨3, low, high, code / 262144⟩ ∧
      low.toNat ≤ code / 4096 % 64 + 128 ∧ code / 4096 % 64 + 128 ≤ high.toNat := by
  have hbyte : (UInt8.ofNat (code / 262144 % 8 + 240)).toNat = code / 262144 + 240 := by
    rw [UInt8.toNat_ofNat']
    omega
  generalize UInt8.ofNat (code / 262144 % 8 + 240) = b at hbyte
  simp only [lead?, UInt8.le_iff_toNat_le, ← UInt8.toNat_inj, hbyte]
  simp
  split_ifs <;> simp <;> omega

/-- The cases are the lengths that an encoded character can have. -/
theorem foldl_step_char (c : Char) (shown : String) :
    (String.utf8EncodeChar c).foldl step (shown, none) = (shown.push c, none) := by
  have hscalar : c.toNat < 0xD800 ∨ (0xDFFF < c.toNat ∧ c.toNat < 0x110000) := c.valid
  have hchar : Char.ofNat c.toNat = c := Char.ofNat_toNat c
  obtain ⟨hfirst, hlast⟩ : (0x80 : UInt8).toNat = 128 ∧ (0xBF : UInt8).toNat = 191 := by decide
  have hvalue : c.val.toNat = c.toNat := rfl
  rw [String.utf8EncodeChar, hvalue]
  generalize c.toNat = code at hscalar hchar
  -- One to four bytes, by the bounds of the code.
  split_ifs with hone htwo hthree
  · have hbyte : (UInt8.ofNat code).toNat = code := by
      rw [UInt8.toNat_ofNat']
      omega
    have hlow : UInt8.ofNat code < 0x80 := by
      rw [UInt8.lt_iff_toNat_lt, hbyte, hfirst]
      omega
    rw [List.foldl_cons, List.foldl_nil, step, start, if_pos hlow, hbyte, hchar]
  · have hcode : code / 64 * 64 + code % 64 = code := by omega
    simp only [List.foldl_cons, List.foldl_nil]
    rw [step_lead (lead?_two (by omega) (by omega)),
      step_next (by omega) (by omega) (by omega), if_pos (by decide), hcode, hchar]
  · have hleast : 0x800 ≤ code := by omega
    obtain ⟨low, high, hlead, hlow, hhigh⟩ := lead?_three hleast (by omega) (by omega)
    have hcode : (code / 4096 * 64 + code / 64 % 64) * 64 + code % 64 = code := by omega
    simp only [List.foldl_cons, List.foldl_nil]
    rw [step_lead hlead, step_next (by omega) hlow hhigh, if_neg (by decide),
      step_next (by omega) (by omega) (by omega), if_pos (by decide), hcode, hchar]
  · have hleast : 0x10000 ≤ code := by omega
    obtain ⟨low, high, hlead, hlow, hhigh⟩ := lead?_four hleast (by omega)
    have hcode : ((code / 262144 * 64 + code / 4096 % 64) * 64 + code / 64 % 64) * 64 +
        code % 64 = code := by
      omega
    simp only [List.foldl_cons, List.foldl_nil]
    rw [step_lead hlead, step_next (by omega) hlow hhigh, if_neg (by decide),
      step_next (by omega) (by omega) (by omega), if_neg (by decide),
      step_next (by omega) (by omega) (by omega), if_pos (by decide), hcode, hchar]

/-- A byte below 128 is a character by itself. -/
theorem eq_of_mem_utf8EncodeChar {c sign : Char} (hlow : sign.toNat < 128)
    (hmem : UInt8.ofNat sign.toNat ∈ String.utf8EncodeChar c) : c = sign := by
  have hvalue : c.val.toNat = c.toNat := rfl
  rw [String.utf8EncodeChar, hvalue] at hmem
  refine Char.toNat_inj.mp ?_
  generalize sign.toNat = plain at hlow hmem
  generalize c.toNat = code at hmem
  -- All bytes of a longer character are at least 128.
  split_ifs at hmem <;>
    simp only [List.mem_cons, List.not_mem_nil, or_false, ← UInt8.toNat_inj,
      UInt8.toNat_ofNat'] at hmem <;>
    omega

/-! ## The bytes of a text -/

theorem mem_of_mem_bytes {sign : Char} (hlow : sign.toNat < 128) {chars : List Char}
    (hmem : UInt8.ofNat sign.toNat ∈ chars.flatMap String.utf8EncodeChar) : sign ∈ chars := by
  obtain ⟨c, hc, hbyte⟩ := List.mem_flatMap.mp hmem
  exact eq_of_mem_utf8EncodeChar hlow hbyte ▸ hc

theorem foldl_step_chars (chars : List Char) (shown : String) :
    (chars.flatMap String.utf8EncodeChar).foldl step (shown, none) =
      (shown ++ String.ofList chars, none) := by
  induction chars generalizing shown with
  | nil => simp
  | cons c rest ih =>
    rw [List.flatMap_cons, List.foldl_append, foldl_step_char, ih, String.ofList_cons,
      String.push_eq_append, String.append_assoc]

/-- The bytes are read in order.  The induction is on the number of bytes that are left. -/
theorem foldl_toList {α : Type} (bytes : ByteArray) (read : α → UInt8 → α) (start : α) :
    bytes.foldl read start = bytes.data.toList.foldl read start := by
  have hloop : ∀ (left next : Nat) (here : α), next + left = bytes.size →
      ByteArray.foldlM.loop (m := Id) (fun here b => pure (read here b)) bytes bytes.size
        (Nat.le_refl _) left next here = (bytes.data.toList.drop next).foldl read here := by
    intro left
    induction left with
    | zero =>
      intro next here hnext
      have hsize : bytes.data.toList.length = bytes.size := rfl
      have hlength : bytes.data.toList.length ≤ next := by omega
      rw [ByteArray.foldlM.loop, dif_neg (by omega), List.drop_eq_nil_of_le hlength]
      rfl
    | succ left ih =>
      intro next here hnext
      have hwithin : next < bytes.size := by omega
      have hlength : next < bytes.data.toList.length := hwithin
      rw [ByteArray.foldlM.loop, dif_pos hwithin, List.drop_eq_getElem_cons hlength,
        List.foldl_cons]
      exact ih (next + 1) _ (by omega)
  have hall := hloop bytes.size 0 start (Nat.zero_add _)
  rw [List.drop_zero] at hall
  rw [← hall, ByteArray.foldl, ByteArray.foldlM, dif_pos (Nat.le_refl _)]
  rfl

theorem toList_toUTF8 (text : String) :
    text.toUTF8.data.toList = text.toList.flatMap String.utf8EncodeChar := by
  rw [String.toUTF8_eq_toByteArray, ← String.utf8Encode_toList, List.utf8Encode,
    List.data_toByteArray]

/-- The bytes of a text show the text. -/
theorem lossy_toUTF8 (text : String) : lossy text.toUTF8 = text := by
  rw [lossy, foldl_toList, toList_toUTF8, foldl_step_chars]
  simp

end Utf8

end PassPipeline.Text
