import PassPipeline.Text.Quoted
import PassPipeline.Text.Utf8

/-!
# Text of the system

The words of a command line, the paths of files and the variables of the environment are
bytes, which need not be a text.  Messages show such a path with replacements for what is
no text; descriptions of data quote it, with two digits for every byte that is no text.
-/

namespace PassPipeline

/-- A text as the system has it. -/
abbrev OsText := ByteArray

instance : DecidableEq OsText := ByteArray.instDecidableEq

namespace Text.System

/-- A byte that belongs to no character, as it is quoted. -/
def escapedByte (b : UInt8) : List Char :=
  ['\\', 'x'] ++ (if b < 0x10 then ['0'] else []) ++ (hexadecimal b.toNat).map Char.toUpper

/-- What has been quoted, and the bytes of the character that has begun, if any. -/
structure Quoting where
  written : List Char := []
  begun : Option (List UInt8 × Utf8.Begun) := none

/-- Quotes a byte between characters. -/
def Quoting.start (written : List Char) (b : UInt8) : Quoting :=
  if b < 0x80 then { written := written ++ escape '"' (Char.ofNat b.toNat) }
  else
    match Utf8.lead? b with
    | some begun => { written, begun := some ([b], begun) }
    | none => { written := written ++ escapedByte b }

/-- Quotes one byte. -/
def Quoting.step (quoting : Quoting) (b : UInt8) : Quoting :=
  match quoting.begun with
  | none => start quoting.written b
  | some (seen, begun) =>
    if begun.low ≤ b ∧ b ≤ begun.high then
      let code := begun.code * 64 + (b.toNat - 0x80)
      if begun.owed ≤ 1 then { written := quoting.written ++ escape '"' (Char.ofNat code) }
      else { quoting with begun := some (seen ++ [b], ⟨begun.owed - 1, 0x80, 0xBF, code⟩) }
    else start (quoting.written ++ seen.flatMap escapedByte) b

/-- Text of the system between double quotes. -/
def quoted (text : OsText) : String :=
  let quoting := text.foldl Quoting.step {}
  let rest := (quoting.begun.map (·.1.flatMap escapedByte)).getD []
  String.ofList ('"' :: (quoting.written ++ rest) ++ ['"'])

example : quoted ("a\"é".toUTF8 ++ ⟨#[0xE2, 0x82]⟩) = "\"a\\\"é\\xE2\\x82\"" := by decide +kernel

/-! ## Paths -/

/-- The path of a name in a directory. -/
def join (directory name : OsText) : OsText :=
  if directory.isEmpty || directory.data.back? == some 0x2F then directory ++ name
  else directory ++ "/".toUTF8 ++ name

example : join "/etc".toUTF8 "hosts".toUTF8 = "/etc/hosts".toUTF8 := by decide +kernel

end Text.System

end PassPipeline
