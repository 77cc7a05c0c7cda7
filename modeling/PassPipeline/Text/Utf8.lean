/-!
# Bytes as text

Text that is shown is decoded with replacement: every maximal run of bytes
that begins a character and cannot be completed, and every byte that begins no
character, is shown as one replacement character.  The decoder is a fold over
the bytes.  Its state is the character that has begun, if any: how many bytes it
still owes, the range in which the next one has to lie, and the code point read
so far.
-/

namespace PassPipeline.Text.Utf8

/-- A character of which some bytes are still to come. -/
structure Begun where
  /-- The number of bytes still owed. -/
  owed : Nat
  /-- The least value that the next byte may have. -/
  low : UInt8
  /-- The greatest value that the next byte may have. -/
  high : UInt8
  /-- The bits of the code point that have been read. -/
  code : Nat
  deriving Repr, DecidableEq

/-- The character shown for bytes that are no text. -/
def replacement : Char := '\uFFFD'

/-- What the first byte of a character of several bytes leaves to come. -/
def lead? (b : UInt8) : Option Begun :=
  if 0xC2 ≤ b ∧ b ≤ 0xDF then some ⟨1, 0x80, 0xBF, b.toNat - 0xC0⟩
  else if b = 0xE0 then some ⟨2, 0xA0, 0xBF, 0⟩
  else if b = 0xED then some ⟨2, 0x80, 0x9F, 0xD⟩
  else if 0xE1 ≤ b ∧ b ≤ 0xEF then some ⟨2, 0x80, 0xBF, b.toNat - 0xE0⟩
  else if b = 0xF0 then some ⟨3, 0x90, 0xBF, 0⟩
  else if 0xF1 ≤ b ∧ b ≤ 0xF3 then some ⟨3, 0x80, 0xBF, b.toNat - 0xF0⟩
  else if b = 0xF4 then some ⟨3, 0x80, 0x8F, 4⟩
  else none

/-- Reads a byte between characters. -/
def start (shown : String) (b : UInt8) : String × Option Begun :=
  if b < 0x80 then (shown.push (Char.ofNat b.toNat), none)
  else
    match lead? b with
    | some begun => (shown, some begun)
    | none => (shown.push replacement, none)

/-- Reads one byte. -/
def step (state : String × Option Begun) (b : UInt8) : String × Option Begun :=
  match state with
  | (shown, none) => start shown b
  | (shown, some begun) =>
    if begun.low ≤ b ∧ b ≤ begun.high then
      let code := begun.code * 64 + (b.toNat - 0x80)
      if begun.owed ≤ 1 then (shown.push (Char.ofNat code), none)
      else (shown, some ⟨begun.owed - 1, 0x80, 0xBF, code⟩)
    else start (shown.push replacement) b

/-- The text that bytes show. -/
def lossy (bytes : ByteArray) : String :=
  match bytes.foldl step ("", none) with
  | (shown, none) => shown
  | (shown, some _) => shown.push replacement

end PassPipeline.Text.Utf8
