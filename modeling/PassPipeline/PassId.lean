import Std.Data.ExtTreeMap
import Std.Data.ExtTreeSet

/-!
# Pass identities

A pass type is known to everything else by a 32-bit number.  A catalogue that
numbers its passes hands the numbers out in registration order, so the order
of identities is the order of registration; every set and every map keyed by
identities is therefore kept in ascending order.
-/

namespace PassPipeline

/-- The number under which a pass type is known. -/
structure PassId where
  /-- The number itself. -/
  raw : UInt32
  deriving DecidableEq, Repr, Inhabited

namespace PassId

instance : Ord PassId where
  compare first second := compare first.raw second.raw

theorem compare_eq (first second : PassId) :
    compare first second = compare first.raw second.raw := rfl

instance : Std.TransOrd PassId where
  eq_swap := by
    intro first second
    simpa only [compare_eq] using Std.OrientedCmp.eq_swap
  isLE_trans := by
    intro first second third
    simpa only [compare_eq] using Std.TransCmp.isLE_trans

instance : Std.LawfulEqOrd PassId where
  eq_of_compare := by
    intro first second hsame
    have hraw : first.raw = second.raw :=
      Std.LawfulEqCmp.eq_of_compare (by simpa only [compare_eq] using hsame)
    cases first
    cases second
    simp_all
  compare_self := by
    intro id
    simp

/-- The identity whose number is `n`, modulo the width of an identity. -/
def ofNat (n : Nat) : PassId := ⟨UInt32.ofNat n⟩

/-- The number as a natural number. -/
def toNat (id : PassId) : Nat := id.raw.toNat

/-- The form that messages use: a hash sign and the number. -/
def display (id : PassId) : String := "#" ++ toString id.toNat

/-- The form that descriptions of data use. -/
def debug (id : PassId) : String := "PassId(" ++ toString id.toNat ++ ")"

end PassId

/-- A finite set of pass identities, listed in ascending order. -/
abbrev IdSet := Std.ExtTreeSet PassId

/-- A finite map keyed by pass identities, listed in ascending order. -/
abbrev IdMap (α : Type) := Std.ExtTreeMap PassId α

end PassPipeline
