import Mathlib.Algebra.Group.Nat.Defs
import Mathlib.Tactic.Common
import PassPipeline.Text.Number

/-!
# Numerals

A number is read from a numeral: decimal digits, of which the first may be zeros, and a plus sign
before them or not.  A numeral is read as the number that it stands for, if that fits a word, and
nothing else is read as a number (`word?_eq_some_iff`).  So a number that is written in decimal
is read back (`numeral_toString`).
-/

namespace PassPipeline.Text

variable {c : Char} {digits : List Char} {n : Nat}

/-- The text is a plus sign or nothing, and then at least one decimal digit, and the digits stand
for the number. -/
def Numeral (text : String) (n : Nat) : Prop :=
  ∃ digits : List Char, digits ≠ [] ∧ (∀ c ∈ digits, c.isDigit = true) ∧
    Nat.ofDigitChars 10 digits 0 = n ∧ (text.toList = digits ∨ text.toList = '+' :: digits)

/-! ## Digits -/

theorem isDigit_iff : c.isDigit = true ↔ '0' ≤ c ∧ c ≤ '9' := by
  rw [Char.isDigit, Bool.and_eq_true, decide_eq_true_iff, decide_eq_true_iff]
  rfl

theorem digitValue?_of_isDigit (hdigit : c.isDigit = true) :
    digitValue? c = some (c.toNat - '0'.toNat) ∧ c.toNat - '0'.toNat < 10 := by
  have hlast : c.toNat ≤ '9'.toNat := UInt32.le_iff_toNat_le.mp (isDigit_iff.mp hdigit).2
  have hcount : '9'.toNat - '0'.toNat = 9 := rfl
  exact ⟨by rw [digitValue?, if_pos (isDigit_iff.mp hdigit)], by omega⟩

/-- The letters among the digits do not count for less than ten. -/
theorem isDigit_of_digitValue? (hvalue : digitValue? c = some n) (hsmall : n < 10) :
    c.isDigit = true := by
  rw [isDigit_iff]
  rw [digitValue?] at hvalue
  split at hvalue
  · assumption
  · split at hvalue
    · cases hvalue
      omega
    · split at hvalue
      · cases hvalue
        omega
      · cases hvalue

/-- The induction is on the digits, of which some have been read. -/
theorem digitsFrom?_eq_some_iff {begun : Nat} :
    digitsFrom? 10 begun digits = some n ↔
      (∀ c ∈ digits, c.isDigit = true) ∧ Nat.ofDigitChars 10 digits begun = n := by
  induction digits generalizing begun with
  | nil => simp [digitsFrom?]
  | cons c rest ih =>
    rw [Nat.ofDigitChars_cons, List.forall_mem_cons]
    cases hdigit : c.isDigit with
    | true =>
      obtain ⟨hvalue, hsmall⟩ := digitValue?_of_isDigit hdigit
      rw [digitsFrom?, hvalue]
      dsimp only
      rw [if_pos hsmall, ih, Nat.mul_comm]
      simp
    | false =>
      -- A letter can be a digit, but none of the base.
      have hnone : digitsFrom? 10 begun (c :: rest) = none := by
        rw [digitsFrom?]
        split
        · next value hvalue =>
          refine if_neg fun hsmall => ?_
          cases hdigit.symm.trans (isDigit_of_digitValue? hvalue hsmall)
        · rfl
      rw [hnone]
      simp

theorem digits?_eq_some_iff :
    digits? 10 digits = some n ↔
      digits ≠ [] ∧ (∀ c ∈ digits, c.isDigit = true) ∧ Nat.ofDigitChars 10 digits 0 = n := by
  cases digits with
  | nil => simp [digits?]
  | cons c rest => simp [digits?, digitsFrom?_eq_some_iff]

/-- The digits of a numeral, with their sign or without it. -/
theorem word?_eq_some_iff_digits {text digits : List Char}
    (hdigits : text = '+' :: digits ∨ (text = digits ∧ ∀ rest, text ≠ '+' :: rest)) :
    word? text = some n ↔ digits? 10 digits = some n ∧ n < 2 ^ 64 := by
  have hword : word? text = (digits? 10 digits).bind fun value =>
      if value < wordBound then some value else none := by
    rcases hdigits with rfl | ⟨rfl, hunsigned⟩
    · rw [word?]
      cases digits? 10 digits <;> rfl
    · rw [word?]
      · cases digits? 10 text <;> rfl
      · exact hunsigned
  have hbound : wordBound = 2 ^ 64 := rfl
  rw [hword, ← hbound, Option.bind_eq_some_iff]
  constructor
  · rintro ⟨value, hvalue, hread⟩
    obtain ⟨hsmall, hread⟩ := Option.ite_none_right_eq_some.mp hread
    cases hread
    exact ⟨hvalue, hsmall⟩
  · rintro ⟨hvalue, hsmall⟩
    exact ⟨n, hvalue, if_pos hsmall⟩

theorem word?_eq_some_iff {text : String} :
    word? text.toList = some n ↔ Numeral text n ∧ n < 2 ^ 64 := by
  by_cases hsigned : ∃ rest, text.toList = '+' :: rest
  · obtain ⟨rest, htext⟩ := hsigned
    rw [word?_eq_some_iff_digits (Or.inl htext), digits?_eq_some_iff]
    -- A plus sign is no digit.
    constructor
    · rintro ⟨⟨hsome, hdigits, hvalue⟩, hsmall⟩
      exact ⟨⟨rest, hsome, hdigits, hvalue, Or.inr htext⟩, hsmall⟩
    · rintro ⟨⟨digits, hsome, hdigits, hvalue, hplain | hsigned⟩, hsmall⟩
      · have hplus := hdigits '+' (by rw [← hplain, htext]; exact List.mem_cons_self)
        cases hplus
      · cases htext.symm.trans hsigned
        exact ⟨⟨hsome, hdigits, hvalue⟩, hsmall⟩
  · have hunsigned : ∀ rest, text.toList ≠ '+' :: rest := fun rest htext => hsigned ⟨rest, htext⟩
    rw [word?_eq_some_iff_digits (Or.inr ⟨rfl, hunsigned⟩), digits?_eq_some_iff]
    constructor
    · rintro ⟨⟨hsome, hdigits, hvalue⟩, hsmall⟩
      exact ⟨⟨_, hsome, hdigits, hvalue, Or.inl rfl⟩, hsmall⟩
    · rintro ⟨⟨digits, hsome, hdigits, hvalue, hplain | hsigned⟩, hsmall⟩
      · rw [hplain]
        exact ⟨⟨hsome, hdigits, hvalue⟩, hsmall⟩
      · exact absurd hsigned (hunsigned digits)

/-- A number that is written in decimal is a numeral for itself. -/
theorem numeral_toString (n : Nat) : Numeral (toString n) n := by
  refine ⟨Nat.toDigits 10 n, Nat.toDigits_ne_nil, ?_, Nat.ofDigitChars_ten_toDigits, Or.inl ?_⟩
  · exact fun c hc => Nat.isDigit_of_mem_toDigits (by decide) (by decide) hc
  · rw [Nat.toString_eq_ofList_toDigits, String.toList_ofList]

end PassPipeline.Text
