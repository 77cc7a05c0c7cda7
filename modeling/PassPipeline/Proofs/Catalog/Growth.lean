import PassPipeline.Proofs.Catalog.Requests
import PassPipeline.Proofs.Run.Credits

/-!
# What requests do to the change counters

Registrations add entries with nothing on their counters, and the others keep theirs
(`Extends`); of the other requests only a direct addition touches a counter.  The pipeline is a
sequence of registrations, so this is said of computations that may be refused (`Enlarges`).
-/

namespace PassPipeline

namespace Catalog

/-- Entries are added, with nothing on their counters, and the others keep theirs. -/
structure Extends (before after : Catalog) : Prop where
  admission : after.admission = before.admission
  numbered : after.Numbered
  kept : ∀ ⦃id pass⦄, before.find? id = some pass →
    (after.find? id).map Descriptor.account = some pass.account
  fresh : ∀ ⦃id pass⦄, before.find? id = none → after.find? id = some pass →
    pass.account = (id, 0)

variable {before middle after catalog : Catalog}

theorem Extends.trans (hfirst : before.Extends middle) (hsecond : middle.Extends after) :
    before.Extends after where
  admission := hsecond.admission.trans hfirst.admission
  numbered := hsecond.numbered
  kept id pass hpass := by
    obtain ⟨found, hfound, haccount⟩ := Option.map_eq_some_iff.mp (hfirst.kept hpass)
    rw [hsecond.kept hfound, haccount]
  fresh id pass hnone hpass := by
    rcases hmiddle : middle.find? id with _ | found
    · exact hsecond.fresh hmiddle hpass
    · have hkept := hsecond.kept hmiddle
      rw [hpass] at hkept
      exact (Option.some.inj hkept).trans (hfirst.fresh hnone hmiddle)

theorem Accrues.extends (haccrues : before.Accrues after fun _ => 0)
    (hnumbered : before.Numbered) : before.Extends after where
  admission := haccrues.admission
  numbered := haccrues.numbered hnumbered
  kept id pass hpass := by
    rw [haccrues.account, hpass, Option.map_some, UInt64.add_zero]
    rfl
  fresh id pass hnone hpass :=
    absurd ((haccrues.find?_eq_none_iff.mpr hnone).symm.trans hpass) nofun

theorem Numbered.extends_register (hnumbered : catalog.Numbered) (hroom : catalog.size < 2 ^ 32)
    {registration : Registration} {id : PassId}
    (hregister : catalog.register registration = .ok (id, after)) : catalog.Extends after := by
  have hgrows := hnumbered.register hroom hregister
  obtain ⟨-, -, rfl⟩ := register_eq_ok_iff.mp hregister
  have hnew : catalog.find? id = none := by
    rw [← Option.not_isSome_iff_eq_none, Option.isSome_iff_exists, ← mem_entries_iff,
      hnumbered.mem_iff, hgrows.number]
    exact Nat.lt_irrefl _
  refine ⟨rfl, hgrows.numbered, fun other pass hpass => ?_, fun other pass hnone hpass => ?_⟩
  · have hne : id ≠ other := by
      rintro rfl
      exact absurd (hnew.symm.trans hpass) nofun
    rw [find?_install, if_neg hne, hpass]
    rfl
  · rw [find?_install] at hpass
    split at hpass
    · next hsame =>
      cases hpass
      rw [← hsame]
      rfl
    · exact absurd (hnone.symm.trans hpass) nofun

/-- A computation that only adds entries, unless the numbers run out. -/
def Enlarges {α : Type} (computation : ExceptT PassError (StateM Catalog) α) : Prop :=
  ∀ catalog : Catalog, catalog.size ≤ (computation.run catalog).2.size ∧
    (catalog.Numbered → (computation.run catalog).2.size < 2 ^ 32 →
      catalog.Extends (computation.run catalog).2)

theorem Enlarges.bind {α β : Type} {first : ExceptT PassError (StateM Catalog) α}
    {next : α → ExceptT PassError (StateM Catalog) β} (hfirst : Enlarges first)
    (hnext : ∀ value, Enlarges (next value)) : Enlarges (first >>= next) := by
  intro catalog
  obtain ⟨hgrown, hextends⟩ := hfirst catalog
  rw [run_bind]
  rcases hcatalog : first.run catalog with ⟨error | value, after⟩ <;>
    rw [hcatalog] at hgrown hextends
  · exact ⟨hgrown, hextends⟩
  · obtain ⟨hgrownNext, hextendsNext⟩ := hnext value after
    refine ⟨hgrown.trans hgrownNext, fun hnumbered hroom => ?_⟩
    have hafter := hextends hnumbered (hgrownNext.trans_lt hroom)
    exact hafter.trans (hextendsNext hafter.numbered hroom)

theorem enlarges_pure {α : Type} (value : α) : Enlarges (pure value) :=
  fun catalog => ⟨Nat.le_refl _, fun hnumbered _ => (Accrues.refl catalog).extends hnumbered⟩

theorem enlarges_enter (registration : Registration) :
    Enlarges (TextPipeline.enter registration) := by
  intro catalog
  have hrun := TextPipeline.run_enter_bind registration catalog pure
  rw [bind_pure] at hrun
  rw [hrun]
  rcases hregister : catalog.register registration with error | ⟨id, after⟩
  · exact ⟨Nat.le_refl _, fun hnumbered _ => (Accrues.refl catalog).extends hnumbered⟩
  · have hgrown : catalog.size ≤ after.size := by
      obtain ⟨-, -, rfl⟩ := register_eq_ok_iff.mp hregister
      exact Std.ExtTreeMap.size_le_size_insert
    exact ⟨hgrown, fun hnumbered hroom =>
      hnumbered.extends_register (hgrown.trans_lt hroom) hregister⟩

theorem enlarges_registerAll : Enlarges TextPipeline.registerAll := by
  have hintroduce : ∀ summary counting : PassId, Enlarges
      (modify (TextPipeline.introduce · summary counting) :
        ExceptT PassError (StateM Catalog) PUnit) := by
    intro summary counting catalog
    have haccrues : catalog.Accrues (TextPipeline.introduce catalog summary counting) fun _ => 0 :=
      accrues_update summary fun _ => rfl
    exact ⟨haccrues.size.ge, fun hnumbered _ => haccrues.extends hnumbered⟩
  rw [TextPipeline.registerAll_eq, TextPipeline.registerWith]
  refine .bind (enlarges_enter _) fun read => ?_
  refine .bind (enlarges_enter _) fun tokenize => ?_
  refine .bind (enlarges_enter _) fun summary => ?_
  refine .bind (enlarges_enter _) fun stats => ?_
  refine .bind (hintroduce summary stats) fun _ => ?_
  refine .bind (enlarges_enter _) fun emit => ?_
  exact .bind (enlarges_enter _) fun report => enlarges_pure _

/-- A change that may be refused and leaves the counters as they are. -/
theorem enlarges_attempt {α : Type} {change : Catalog → Except PassError (α × Catalog)}
    (haccrues : ∀ catalog answer after, change catalog = .ok (answer, after) →
      catalog.Accrues after fun _ => 0) : Enlarges (attempt change) := by
  intro catalog
  rw [run_attempt]
  rcases hchange : change catalog with error | ⟨answer, after⟩
  · exact ⟨Nat.le_refl _, fun hnumbered _ => (Accrues.refl catalog).extends hnumbered⟩
  · have haccrues := haccrues catalog answer after hchange
    exact ⟨haccrues.size.ge, fun hnumbered _ => haccrues.extends hnumbered⟩

theorem accrues_clearSelection (catalog : Catalog) :
    catalog.Accrues catalog.clearSelection fun _ => 0 where
  admission := rfl
  size := Std.ExtTreeMap.size_map
  account id := by
    rw [find?_clearSelection, Option.map_map]
    simp only [UInt64.add_zero]
    rfl

theorem exists_of_map_eq_ok {α β : Type} {outcome : Except PassError α} {change : α → β}
    {value : β} (hmap : outcome.map change = .ok value) :
    ∃ before, outcome = .ok before ∧ change before = value := by
  rcases outcome with error | before <;> cases hmap
  exact ⟨before, rfl, rfl⟩

theorem accrues_selectArg {arg : String} {id : PassId}
    (hselect : catalog.selectArg arg = .ok (id, after)) : catalog.Accrues after fun _ => 0 := by
  rw [selectArg] at hselect
  split at hselect
  · cases hselect
  · obtain ⟨selected, hselected, hafter⟩ := exists_of_map_eq_ok hselect
    cases hafter
    exact accrues_setSelected hselected

end Catalog

open Catalog

/-- Of the requests only a direct addition touches the counters. -/
theorem Request.enlarges {request : Request} (hquiet : ∀ id count, request ≠ .addChanges id count) :
    Enlarges request.onCatalog := by
  cases request with
  | register registration => exact (enlarges_enter registration).bind fun id => enlarges_pure [id]
  | registerPipeline => exact enlarges_registerAll.bind fun ids => enlarges_pure ids.all
  | addChanges id count => exact absurd rfl (hquiet id count)
  | setSelected id selected =>
    refine enlarges_attempt fun catalog answer after hselect => ?_
    obtain ⟨marked, hmarked, heq⟩ := exists_of_map_eq_ok hselect
    cases heq
    exact accrues_setSelected hmarked
  | selectArg arg =>
    refine enlarges_attempt fun catalog answer after hselect => ?_
    obtain ⟨⟨id, marked⟩, hmarked, heq⟩ := exists_of_map_eq_ok hselect
    cases heq
    exact accrues_selectArg hmarked
  | clearSelection =>
    refine enlarges_attempt fun catalog answer after hclear => ?_
    cases hclear
    exact accrues_clearSelection catalog

/-- A direct addition to a pass that is there. -/
theorem Request.run_addChanges {catalog : Catalog} {id : PassId} (count : UInt64) :
    ((Request.addChanges id count).onCatalog.run catalog).2 =
      catalog.update id (·.addChanges count) := by
  rw [onCatalog, run_attempt, Catalog.addChanges, updateKnown]
  rcases hinfo : catalog.info id with error | pass
  · obtain ⟨hnone, -⟩ := info_eq_error_iff.mp hinfo
    simp [update, hnone, Except.map]
  · rfl

end PassPipeline
