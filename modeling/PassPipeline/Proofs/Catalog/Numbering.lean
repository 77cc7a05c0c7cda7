import Mathlib.Algebra.Group.Nat.Defs
import PassPipeline.Catalog

/-!
# Numbered catalogues

As long as there are numbers left, a registration takes one that is not in use, adds an entry
there and leaves every other entry alone (`Numbered.register`).  That the next number is free
is not checked by a registration: it follows from the invariant that the numbers in use are
those below the number of entries.

Entries change while their catalogue is in use, but not in what was registered.  `Offers` is
about that part of an entry, and `Retains` tells that none of it was lost.
-/

namespace PassPipeline

theorem PassId.toNat_ofNat {n : Nat} (hn : n < 2 ^ 32) : (PassId.ofNat n).toNat = n :=
  UInt32.toNat_ofNat_of_lt hn

theorem PassId.toNat_injective {first second : PassId} (htoNat : first.toNat = second.toNat) :
    first = second := by
  cases first
  cases second
  exact congrArg PassId.mk (UInt32.toNat_inj.mp htoNat)

/-- Identities are ordered by their numbers. -/
theorem PassId.compare_eq_lt {first second : PassId} :
    compare first second = .lt ↔ first.toNat < second.toNat := by
  rw [PassId.compare_eq, Std.compare_eq_lt, UInt32.lt_iff_toNat_lt]
  rfl

/-- Ascending lists with the same members are the same list. -/
theorem PassId.eq_of_ascending {first second : List PassId}
    (hfirst : first.Pairwise (·.toNat < ·.toNat)) (hsecond : second.Pairwise (·.toNat < ·.toNat))
    (hmem : ∀ id, id ∈ first ↔ id ∈ second) : first = second := by
  have hnodup : ∀ {ids : List PassId}, ids.Pairwise (·.toNat < ·.toNat) → ids.Nodup :=
    fun hids => hids.imp fun hless heq => Nat.ne_of_lt hless (congrArg PassId.toNat heq)
  refine List.Perm.eq_of_pairwise (fun _ _ _ _ hless hgreater => ?_) hfirst hsecond
    ((List.perm_ext_iff_of_nodup (hnodup hfirst) (hnodup hsecond)).mpr hmem)
  exact absurd hless (Nat.lt_asymm hgreater)

namespace Catalog

theorem mem_entries_iff {catalog : Catalog} {id : PassId} :
    id ∈ catalog.entries ↔ ∃ pass, catalog.find? id = some pass := by
  rw [← Std.ExtTreeMap.isSome_getElem?_iff_mem, ← find?, Option.isSome_iff_exists]

/-- The pass was registered under that identity. -/
def Offers (catalog : Catalog) (id : PassId) (registration : Registration) : Prop :=
  ∃ pass, catalog.find? id = some pass ∧ pass.toRegistration = registration ∧ pass.id = id

theorem Offers.id_eq {catalog : Catalog} {id : PassId} {registration : Registration}
    {pass : Descriptor} (hoffers : catalog.Offers id registration)
    (hfind : catalog.find? id = some pass) : pass.id = id := by
  obtain ⟨found, hfound, -, hid⟩ := hoffers
  cases hfind.symm.trans hfound
  exact hid

theorem Offers.run_eq {catalog : Catalog} {id : PassId} {registration : Registration}
    {pass : Descriptor} (hoffers : catalog.Offers id registration)
    (hfind : catalog.find? id = some pass) :
    pass.behaviour.run = registration.behaviour.run := by
  obtain ⟨found, hfound, rfl, -⟩ := hoffers
  cases hfind.symm.trans hfound
  rfl

/-- The later catalogue has every pass that the earlier has. -/
def Retains (before after : Catalog) : Prop :=
  ∀ id registration, before.Offers id registration → after.Offers id registration

theorem Retains.trans {first second third : Catalog} (hfirst : first.Retains second)
    (hsecond : second.Retains third) : first.Retains third :=
  fun id registration hoffers => hsecond id registration (hfirst id registration hoffers)

/-- The numbers in use are those below the number of entries. -/
structure Numbered (catalog : Catalog) : Prop where
  mem_iff : ∀ id, id ∈ catalog.entries ↔ id.toNat < catalog.size

theorem Numbered.lt_size {catalog : Catalog} (hnumbered : catalog.Numbered) {id : PassId}
    {registration : Registration} (hoffers : catalog.Offers id registration) :
    id.toNat < catalog.size := by
  obtain ⟨pass, hfind, -⟩ := hoffers
  exact (hnumbered.mem_iff id).mp (mem_entries_iff.mpr ⟨pass, hfind⟩)

theorem numbered_empty : ({} : Catalog).Numbered where
  mem_iff id := by simp [size]

/-! ## Registrations -/

variable {catalog after : Catalog} {id : PassId} {registration : Registration}

/-- A registration takes the number that comes next. -/
structure Grows (catalog : Catalog) (id : PassId) (registration : Registration)
    (after : Catalog) : Prop where
  number : id.toNat = catalog.size
  size_eq : after.size = catalog.size + 1
  numbered : after.Numbered
  offers : after.Offers id registration
  retains : catalog.Retains after

theorem Numbered.register (hnumbered : catalog.Numbered) (hroom : catalog.size < 2 ^ 32)
    (hregister : catalog.register registration = .ok (id, after)) :
    catalog.Grows id registration after := by
  obtain ⟨hid, rfl⟩ : PassId.ofNat catalog.size = id ∧
      catalog.install id registration = after := by
    unfold Catalog.register at hregister
    split at hregister
    · cases hregister
    · cases hregister
      exact ⟨rfl, rfl⟩
  have hnumber : id.toNat = catalog.size := by
    rw [← hid]
    exact PassId.toNat_ofNat hroom
  have hfree : id ∉ catalog.entries := by
    rw [hnumbered.mem_iff, hnumber]
    exact Nat.lt_irrefl _
  have hsize : (catalog.install id registration).size = catalog.size + 1 := by
    rw [size, install, Std.ExtTreeMap.size_insert, if_neg (by simpa using hfree)]
    rfl
  refine ⟨hnumber, hsize, ⟨fun other => ?_⟩, ⟨{ registration with id }, ?_, rfl, rfl⟩, ?_⟩
  · rw [hsize, install, Std.ExtTreeMap.mem_insert, hnumbered.mem_iff,
      Std.LawfulEqCmp.compare_eq_iff_eq, Nat.lt_succ_iff_lt_or_eq, ← hnumber]
    constructor
    · rintro (rfl | hless)
      · exact Or.inr rfl
      · exact Or.inl hless
    · rintro (hless | heq)
      · exact Or.inr hless
      · exact Or.inl (PassId.toNat_injective heq.symm)
  · rw [find?_install, if_pos rfl]
  · rintro other offered ⟨pass, hfind, hpass⟩
    refine ⟨pass, ?_, hpass⟩
    -- What is offered already has another number than the new entry.
    have hne : id ≠ other := by
      rintro rfl
      exact hfree (mem_entries_iff.mpr ⟨pass, hfind⟩)
    rw [find?_install, if_neg hne, hfind]

/-! ## Changes -/

/-- A change of an entry uses no number and frees none. -/
theorem mem_entries_update (catalog : Catalog) (id other : PassId)
    (change : Descriptor → Descriptor) :
    (other ∈ (catalog.update id change).entries ↔ other ∈ catalog.entries) ∧
      (catalog.update id change).size = catalog.size := by
  rw [update]
  split
  · next pass hfind =>
    have hmem : id ∈ catalog.entries := mem_entries_iff.mpr ⟨pass, hfind⟩
    refine ⟨?_, ?_⟩
    · rw [Std.ExtTreeMap.mem_insert, Std.LawfulEqCmp.compare_eq_iff_eq]
      exact ⟨fun hcase => hcase.elim (fun heq => heq ▸ hmem) fun h => h, Or.inr⟩
    · rw [size, Std.ExtTreeMap.size_insert, if_pos (by simpa using hmem)]
      rfl
  · exact ⟨Iff.rfl, rfl⟩

theorem Numbered.update (hnumbered : catalog.Numbered) (id : PassId)
    (change : Descriptor → Descriptor) : (catalog.update id change).Numbered where
  mem_iff other := by
    obtain ⟨hmem, hsize⟩ := catalog.mem_entries_update id other change
    rw [hmem, hsize, hnumbered.mem_iff]

theorem Offers.update_ne {other : PassId} {change : Descriptor → Descriptor}
    (hoffers : catalog.Offers other registration) (hne : id ≠ other) :
    (catalog.update id change).Offers other registration := by
  obtain ⟨pass, hfind, hpass⟩ := hoffers
  exact ⟨pass, by rw [find?_update, if_neg hne, hfind], hpass⟩

theorem Offers.update_self {changed : Registration} {change : Descriptor → Descriptor}
    (hoffers : catalog.Offers id registration) (hid : ∀ pass, (change pass).id = pass.id)
    (hchange : ∀ pass, pass.toRegistration = registration →
      (change pass).toRegistration = changed) :
    (catalog.update id change).Offers id changed := by
  obtain ⟨pass, hfind, hregistration, hpass⟩ := hoffers
  refine ⟨change pass, ?_, hchange pass hregistration, (hid pass).trans hpass⟩
  rw [find?_update, if_pos rfl, hfind]
  rfl

theorem update_eq_self {change : Descriptor → Descriptor} (hchange : ∀ pass, change pass = pass)
    (catalog : Catalog) (id : PassId) : catalog.update id change = catalog := by
  rw [update]
  split
  · next pass hfind =>
    have hentries : catalog.entries.insert id (change pass) = catalog.entries := by
      apply Std.ExtTreeMap.ext_getElem?
      intro other
      rw [Std.ExtTreeMap.getElem?_insert, hchange]
      split
      · next hsame =>
        rw [← Std.LawfulEqCmp.eq_of_compare hsame]
        exact hfind.symm
      · rfl
    rw [hentries]
  · rfl

theorem retains_update {change : Descriptor → Descriptor} (hid : ∀ pass, (change pass).id = pass.id)
    (hchange : ∀ pass, (change pass).toRegistration = pass.toRegistration) :
    catalog.Retains (catalog.update id change) := by
  intro other offered hoffers
  by_cases hsame : id = other
  · subst hsame
    exact hoffers.update_self hid fun pass hpass => (hchange pass).trans hpass
  · exact hoffers.update_ne hsame

end Catalog

end PassPipeline
