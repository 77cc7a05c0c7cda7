import Mathlib.Algebra.BigOperators.Finprod
import PassPipeline.Proofs.Catalog.Numbering
import PassPipeline.Proofs.Run.Threading

/-!
# What the slots of an execution add to the change counters

A slot adds to the change counters in two ways.  Its pass may add to any counter while it runs,
and what it has added stays even if the slot fails.  If the slot is completed, then moreover what
its pass reports is added to the counter of that pass.  So the counters at a slot are those at the
beginning, and what the slots before it have added in the one way and in the other
(`Arrives.accrues`).

This is about catalogues that lose no entry and in which an entry is under its own number
(`Keeping`), since it is the number in the entry under which a slot is credited.  Counters wrap
around; what is added is added up as natural numbers.
-/

namespace PassPipeline

/-- What accounts are kept by: the number and the change counter. -/
def Descriptor.account (pass : Descriptor) : PassId × UInt64 := (pass.id, pass.changes)

namespace Catalog

/-- No entry is lost, and each is under its own number. -/
structure Keeping (catalog : Catalog) : Prop where
  admission : catalog.admission = .numbered
  id_eq : ∀ ⦃id pass⦄, catalog.find? id = some pass → pass.id = id

/-- The later catalogue has the same entries, with so much more on their counters. -/
structure Accrues (before after : Catalog) (gain : PassId → UInt64) : Prop where
  admission : after.admission = before.admission
  size : after.size = before.size
  account : ∀ id, (after.find? id).map Descriptor.account =
    (before.find? id).map fun pass => (pass.id, pass.changes + gain id)

variable {before middle after catalog : Catalog} {gain more : PassId → UInt64} {id : PassId}

theorem Accrues.refl (catalog : Catalog) : catalog.Accrues catalog fun _ => 0 where
  admission := rfl
  size := rfl
  account id := by simp only [UInt64.add_zero]; rfl

theorem Accrues.trans (hfirst : before.Accrues middle gain) (hsecond : middle.Accrues after more) :
    before.Accrues after fun id => gain id + more id where
  admission := hsecond.admission.trans hfirst.admission
  size := hsecond.size.trans hfirst.size
  account id := by
    have hmiddle := hfirst.account id
    rw [hsecond.account id]
    rcases hbefore : before.find? id with _ | pass <;> rw [hbefore] at hmiddle
    · rw [Option.map_none, Option.map_eq_none_iff] at hmiddle
      rw [hmiddle]
      rfl
    · obtain ⟨found, hfound, haccount⟩ := Option.map_eq_some_iff.mp hmiddle
      rw [hfound]
      obtain ⟨hid, hchanges⟩ := Prod.mk.inj haccount
      simp [hid, hchanges, UInt64.add_assoc]

/-- What is said about the counters of passes that are not there makes no difference. -/
theorem Accrues.congr (haccrues : before.Accrues after gain)
    (hsame : ∀ id pass, before.find? id = some pass → more id = gain id) :
    before.Accrues after more where
  admission := haccrues.admission
  size := haccrues.size
  account id := by
    rw [haccrues.account id]
    cases hbefore : before.find? id with
    | none => rfl
    | some pass => rw [Option.map_some, Option.map_some, hsame id pass hbefore]

theorem Accrues.find?_eq_none_iff (haccrues : before.Accrues after gain) :
    after.find? id = none ↔ before.find? id = none := by
  have haccount := haccrues.account id
  rw [← Option.map_eq_none_iff, haccount, Option.map_eq_none_iff]

theorem Accrues.changes_eq (haccrues : before.Accrues after gain) {pass found : Descriptor}
    (hbefore : before.find? id = some pass) (hafter : after.find? id = some found) :
    found.changes = pass.changes + gain id := by
  have haccount := haccrues.account id
  rw [hbefore, hafter] at haccount
  exact (Prod.mk.inj (Option.some.inj haccount)).2

theorem Accrues.keeping (haccrues : before.Accrues after gain) (hkeeping : before.Keeping) :
    after.Keeping where
  admission := haccrues.admission.trans hkeeping.admission
  id_eq id pass hpass := by
    have haccount := haccrues.account id
    rw [hpass] at haccount
    obtain ⟨found, hfound, hsame⟩ := Option.map_eq_some_iff.mp haccount.symm
    rw [← hkeeping.id_eq hfound]
    exact (Prod.mk.inj hsame).1.symm

theorem Accrues.numbered (haccrues : before.Accrues after gain) (hnumbered : before.Numbered) :
    after.Numbered where
  mem_iff id := by
    rw [haccrues.size, ← hnumbered.mem_iff, mem_entries_iff, mem_entries_iff,
      ← Option.ne_none_iff_exists', ← Option.ne_none_iff_exists', Ne, Ne,
      haccrues.find?_eq_none_iff]

theorem admission_update (catalog : Catalog) (id : PassId) (change : Descriptor → Descriptor) :
    (catalog.update id change).admission = catalog.admission := by
  rw [update]
  split
  · rfl
  · rfl

/-- A change of an entry that is no change of its counter. -/
theorem accrues_update {change : Descriptor → Descriptor} (id : PassId)
    (hchange : ∀ pass, (change pass).account = pass.account) :
    catalog.Accrues (catalog.update id change) fun _ => 0 where
  admission := admission_update ..
  size := (catalog.mem_entries_update id id change).2
  account other := by
    simp only [UInt64.add_zero]
    rw [find?_update]
    split
    · next hsame =>
      rw [hsame, Option.map_map]
      exact congrArg (Option.map · _) (funext hchange)
    · rfl

/-- What is added is added to the entry of that number. -/
theorem accrues_addChanges (catalog : Catalog) (id : PassId) (count : UInt64) :
    catalog.Accrues (catalog.update id (·.addChanges count)) fun other =>
      if other = id then count else 0 where
  admission := admission_update ..
  size := (catalog.mem_entries_update id id _).2
  account other := by
    rw [find?_update]
    by_cases hsame : id = other
    · subst hsame
      rw [if_pos rfl, if_pos rfl, Option.map_map]
      rfl
    · rw [if_neg hsame, if_neg fun heq => hsame heq.symm]
      simp only [UInt64.add_zero]
      rfl

theorem addChanges_cases (catalog : Catalog) (id : PassId) (count : UInt64) :
    catalog.addChanges id count = .ok (catalog.update id (·.addChanges count)) ∨
      (catalog.find? id = none ∧ catalog.addChanges id count = .error (.unknownPass id)) := by
  rw [addChanges, updateKnown]
  cases hinfo : catalog.info id with
  | ok pass => exact Or.inl rfl
  | error error =>
    obtain ⟨hnone, rfl⟩ := info_eq_error_iff.mp hinfo
    exact Or.inr ⟨hnone, rfl⟩

theorem accrues_setSelected {id : PassId} {selected : Bool}
    (hselect : catalog.setSelected id selected = .ok after) :
    catalog.Accrues after fun _ => 0 := by
  rw [setSelected, updateKnown] at hselect
  rcases hinfo : catalog.info id with error | pass <;> rw [hinfo] at hselect
  · cases hselect
  · cases hselect
    exact accrues_update id fun _ => rfl

end Catalog

open Catalog

/-! ## Running passes -/

/-- What the effect adds to the counter of a pass, if the pass is there. -/
def Effect.added (id : PassId) : Effect → ℕ
  | .credit credited count => if id = credited then count.toNat else 0
  | _ => 0

/-- What the effects add to the counter of a pass, if the pass is there. -/
def Effect.sum (effects : List Effect) (id : PassId) : ℕ := (effects.map (added id)).sum

theorem Effect.sum_cons (effect : Effect) (rest : List Effect) (id : PassId) :
    sum (effect :: rest) id = effect.added id + sum rest id := by
  rw [sum, List.map_cons, List.sum_cons]
  rfl

theorem Scene.accrues_perform (scene : Scene)
    (hadmission : scene.world.catalog.admission = .numbered) (effect : Effect) :
    scene.world.catalog.Accrues (scene.perform effect).2.world.catalog fun id =>
      UInt64.ofNat (effect.added id) := by
  cases effect with
  | write text =>
    rw [hears_write]
    exact .refl _
  | mark id selected =>
    rw [perform]
    split
    · next catalog hselect => exact accrues_setSelected hselect
    · exact .refl _
  | credit id count =>
    rw [perform]
    rcases scene.world.catalog.addChanges_cases id count with hadd | ⟨hnone, hadd⟩
    · rw [hadd]
      refine (accrues_addChanges _ id count).congr fun other _ _ => ?_
      rw [Effect.added]
      split
      · exact UInt64.ofNat_toNat
      · rfl
    · rw [hadd]
      refine (Accrues.refl _).congr fun other pass hpass => ?_
      rw [Effect.added, if_neg]
      · rfl
      · rintro rfl
        cases hnone.symm.trans hpass
  | withdraw id =>
    have hwithdraw : (scene.world.catalog.withdraw id).2 = scene.world.catalog := by
      rw [Catalog.withdraw, hadmission]
    show scene.world.catalog.Accrues (scene.world.catalog.withdraw id).2 fun _ => 0
    rw [hwithdraw]
    exact .refl _
  | remember memory => exact accrues_update _ fun _ => rfl
  | _ => exact .refl _

/-- A program adds to the counters by its effects, also if it dies of the last one. -/
theorem Program.accrues_exec {α : Type} (program : Program α) (scene : Scene)
    (hadmission : scene.world.catalog.admission = .numbered) :
    scene.world.catalog.Accrues (program.exec scene).2.world.catalog fun id =>
      UInt64.ofNat (Effect.sum (program.effects scene) id) := by
  induction program generalizing scene with
  | done value => exact .refl _
  | perform effect next ih =>
    have hperform := scene.accrues_perform hadmission effect
    rw [exec, effects]
    simp only [Effect.sum_cons, UInt64.ofNat_add]
    rcases hscene : scene.perform effect with ⟨_ | answer, after⟩ <;> rw [hscene] at hperform
    · exact hperform.trans (.refl _)
    · exact hperform.trans (ih answer after (hperform.admission.trans hadmission))

namespace Site

/-! ## Slots -/

/-- The slot is executed, run and check both succeed, and the pass reports so many changes. -/
def Credits (found : Site) (slot : ℕ) (id : PassId) (changes : UInt64) : Prop :=
  ∃ pass report, found.world.catalog.find? id = some pass ∧ ¬ found.Satisfied slot id ∧
    found.reported pass = some report ∧ report.succeeded = true ∧ report.verified = true ∧
    report.changes = changes

theorem Credits.unique {found : Site} {slot : ℕ} {id : PassId} {changes other : UInt64}
    (hchanges : found.Credits slot id changes) (hother : found.Credits slot id other) :
    changes = other := by
  obtain ⟨pass, report, hfind, -, hreported, -, -, rfl⟩ := hchanges
  obtain ⟨same, again, hsame, -, hagain, -, -, rfl⟩ := hother
  cases hfind.symm.trans hsame
  cases hreported.symm.trans hagain
  rfl

/-- The run of a pass adds to the counters by its effects. -/
theorem accrues_entrance {found : Site} (hkeeping : found.world.catalog.Keeping)
    (pass : Descriptor) :
    found.world.catalog.Accrues
      (pass.behaviour.run.exec (found.entrance pass)).2.world.catalog fun id =>
        UInt64.ofNat (Effect.sum (pass.behaviour.run.effects (found.entrance pass)) id) := by
  have hentrance : (found.entrance pass).world.catalog = found.world.catalog := by
    obtain ⟨trace, heq⟩ := found.entrance_eq pass
    rw [heq]
  have hexec := pass.behaviour.run.accrues_exec (found.entrance pass)
    (by rw [hentrance]; exact hkeeping.admission)
  rwa [hentrance] at hexec

/-- A slot adds to the counters what its pass adds while it runs.  If it is credited, then it is
completed, and the counter of its pass grows by the credit as well. -/
theorem accrues_executeSlot {found : Site} (hkeeping : found.world.catalog.Keeping)
    (timing : Timing) (slot : ℕ) (ran : PassId) :
    (∃ changes, found.Credits slot ran changes ∧
      found.world.catalog.Accrues (found.executeSlot timing slot ran).2.world.catalog fun id =>
        UInt64.ofNat (Effect.sum (found.performed slot ran) id) +
          if id = ran then changes else 0) ∨
    ((∀ changes, ¬ found.Credits slot ran changes) ∧
      found.world.catalog.Accrues (found.executeSlot timing slot ran).2.world.catalog fun id =>
        UInt64.ofNat (Effect.sum (found.performed slot ran) id)) := by
  -- However the run of the pass ends, its effects have been added.
  have hran : ∀ {pass : Descriptor} {answer : Option Report} {scene : Scene},
      found.world.catalog.find? ran = some pass → ¬ found.Satisfied slot ran →
      pass.behaviour.run.exec (found.entrance pass) = (answer, scene) →
        found.world.catalog.Accrues scene.world.catalog fun id =>
          UInt64.ofNat (Effect.sum (found.performed slot ran) id) := by
    intro pass answer scene hfind hsatisfied hexec
    have haccrues := accrues_entrance hkeeping pass
    rw [hexec] at haccrues
    rwa [performed_of_unsatisfied hfind hsatisfied]
  have hstep := found.slotStep timing slot ran
  generalize found.executeSlot timing slot ran = reached at hstep
  cases hstep with
  | missing hfind =>
    refine Or.inr ⟨?_, ?_⟩
    · rintro changes ⟨pass, report, hpass, -⟩
      exact absurd (hfind.symm.trans hpass) nofun
    · rw [performed_of_missing slot hfind]
      exact .refl _
  | skipped hfind hsatisfied =>
    refine Or.inr ⟨?_, ?_⟩
    · rintro changes ⟨pass, report, -, hunsatisfied, -⟩
      exact hunsatisfied hsatisfied
    · rw [performed_of_satisfied hsatisfied]
      exact .refl _
  | @panicked pass scene hfind hsatisfied hexec =>
    refine Or.inr ⟨?_, hran hfind hsatisfied hexec⟩
    rintro changes ⟨again, report, hpass, -, hreported, -⟩
    cases hfind.symm.trans hpass
    exact absurd ((congrArg Prod.fst hexec).symm.trans hreported) nofun
  | @failed pass report scene trace hfind hsatisfied hexec hfailed =>
    refine Or.inr ⟨?_, hran hfind hsatisfied hexec⟩
    rintro changes ⟨again, other, hpass, -, hreported, hsucceeded, hverified, -⟩
    cases hfind.symm.trans hpass
    cases (congrArg Prod.fst hexec).symm.trans hreported
    simp [hsucceeded, hverified] at hfailed
  | @completed pass report scene trace hfind hsatisfied hexec hsucceeded hverified =>
    refine Or.inl ⟨report.changes, ⟨pass, report, hfind, hsatisfied, congrArg Prod.fst hexec,
      hsucceeded, hverified, rfl⟩, ?_⟩
    obtain rfl : pass.id = ran := hkeeping.id_eq hfind
    exact (hran hfind hsatisfied hexec).trans
      (accrues_addChanges scene.world.catalog pass.id report.changes)

/-! ## Sums over the slots of an execution -/

/-- The slot is credited with so many changes, and it is one of that pass. -/
def Rewards (id : PassId) (found : Site) (slot : ℕ) (ran : PassId) (amount : ℕ) : Prop :=
  ran = id ∧ ∃ changes, found.Credits slot ran changes ∧ changes.toNat = amount

/-- The run that the slot calls adds so much to the counter of the pass, which is there. -/
def Adds (id : PassId) (found : Site) (slot : ℕ) (ran : PassId) (amount : ℕ) : Prop :=
  (∃ pass, found.world.catalog.find? id = some pass) ∧
    Effect.sum (found.performed slot ran) id = amount

/-- What a slot comes with is told by where it begins, and only the passes that are there have
it. -/
structure Tells (id : PassId) (amounts : Site → ℕ → PassId → ℕ → Prop) : Prop where
  unique : ∀ {found slot ran amount other},
    amounts found slot ran amount → amounts found slot ran other → amount = other
  present : ∀ {found slot ran amount}, amounts found slot ran amount →
    ∃ pass, found.world.catalog.find? id = some pass

theorem tells_rewards (id : PassId) : Tells id (Rewards id) where
  unique := by
    rintro found slot ran amount other ⟨-, changes, hchanges, rfl⟩ ⟨-, more, hmore, rfl⟩
    rw [hchanges.unique hmore]
  present := by
    rintro found slot ran amount ⟨rfl, changes, ⟨pass, -, hfind, -⟩, -⟩
    exact ⟨pass, hfind⟩

theorem tells_adds (id : PassId) : Tells id (Adds id) where
  unique hamount hother := hamount.2.symm.trans hother.2
  present hamount := hamount.1

variable {amounts : Site → ℕ → PassId → ℕ → Prop} {id : PassId} {timing : Timing}
  {schedule : List PassId} {start here : Site} {last : ℕ}

/-- The execution that begins in `start` arrives at the slot, which comes with that amount. -/
def Earns (amounts : Site → ℕ → PassId → ℕ → Prop) (timing : Timing) (schedule : List PassId)
    (start : Site) (slot amount : ℕ) : Prop :=
  ∃ ran found, schedule[slot]? = some ran ∧ Arrives timing schedule start slot found ∧
    amounts found slot ran amount

/-- The sum of what the slots come with, up to a slot. -/
noncomputable def earned (amounts : Site → ℕ → PassId → ℕ → Prop) (timing : Timing)
    (schedule : List PassId) (start : Site) (last : ℕ) : ℕ :=
  ∑ᶠ entry ∈ {entry : ℕ × ℕ | entry.1 < last ∧
    Earns amounts timing schedule start entry.1 entry.2}, entry.2

theorem Earns.at_arrival {ran : PassId} {amount : ℕ}
    (hearns : Earns amounts timing schedule start last amount)
    (hran : schedule[last]? = some ran) (harrives : Arrives timing schedule start last here) :
    amounts here last ran amount := by
  obtain ⟨other, found, hother, hfound, hamount⟩ := hearns
  cases hother.symm.trans hran
  rwa [hfound.unique harrives] at hamount

theorem finite_earns (htells : Tells id amounts) (timing : Timing) (schedule : List PassId)
    (start : Site) (last : ℕ) :
    {entry : ℕ × ℕ | entry.1 < last ∧
      Earns amounts timing schedule start entry.1 entry.2}.Finite := by
  refine Set.Finite.of_finite_image (f := Prod.fst) ((Set.finite_lt_nat last).subset ?_) ?_
  · rintro slot ⟨entry, hentry, rfl⟩
    exact hentry.1
  · rintro ⟨slot, amount⟩ ⟨-, hamount⟩ ⟨other, more⟩ ⟨-, hmore⟩ hsame
    cases hsame
    obtain ⟨ran, found, hran, hfound, htold⟩ := hamount
    exact congrArg (Prod.mk slot) (htells.unique htold (hmore.at_arrival hran hfound))

/-- A slot at which the execution arrives adds what it comes with. -/
theorem earned_succ (htells : Tells id amounts) {ran : PassId} {amount : ℕ}
    (hran : schedule[last]? = some ran) (harrives : Arrives timing schedule start last here)
    (hamount : amounts here last ran amount) :
    earned amounts timing schedule start (last + 1) =
      earned amounts timing schedule start last + amount := by
  have hlatest : {entry : ℕ × ℕ | entry.1 < last + 1 ∧
        Earns amounts timing schedule start entry.1 entry.2} =
      insert (last, amount) {entry | entry.1 < last ∧
        Earns amounts timing schedule start entry.1 entry.2} := by
    ext ⟨slot, more⟩
    simp only [Set.mem_ofPred_eq, Set.mem_insert_iff, Prod.mk.injEq, Nat.lt_succ_iff_lt_or_eq]
    constructor
    · rintro ⟨hless | rfl, hmore⟩
      · exact Or.inr ⟨hless, hmore⟩
      · exact Or.inl ⟨rfl, htells.unique (hmore.at_arrival hran harrives) hamount⟩
    · rintro (⟨rfl, rfl⟩ | ⟨hless, hmore⟩)
      · exact ⟨Or.inr rfl, ran, here, hran, harrives, hamount⟩
      · exact ⟨Or.inl hless, hmore⟩
  rw [earned, hlatest, finsum_mem_insert _ (by simp) (finite_earns htells ..), Nat.add_comm]
  rfl

/-- Slots at which the execution does not arrive, or which come with nothing, add nothing. -/
theorem earned_eq_of_none {first : ℕ} (hle : first ≤ last)
    (hnone : ∀ slot amount, first ≤ slot → slot < last →
      ¬ Earns amounts timing schedule start slot amount) :
    earned amounts timing schedule start last = earned amounts timing schedule start first := by
  have hsame : {entry : ℕ × ℕ | entry.1 < last ∧
        Earns amounts timing schedule start entry.1 entry.2} =
      {entry | entry.1 < first ∧ Earns amounts timing schedule start entry.1 entry.2} := by
    ext ⟨slot, amount⟩
    constructor
    · rintro ⟨hless, hearns⟩
      refine ⟨Nat.lt_of_not_le fun hlater => ?_, hearns⟩
      exact hnone slot amount hlater hless hearns
    · rintro ⟨hless, hearns⟩
      exact ⟨hless.trans_le hle, hearns⟩
  rw [earned, hsame]
  rfl

theorem earned_succ_of_none {ran : PassId} (hran : schedule[last]? = some ran)
    (harrives : Arrives timing schedule start last here)
    (hnone : ∀ amount, ¬ amounts here last ran amount) :
    earned amounts timing schedule start (last + 1) =
      earned amounts timing schedule start last := by
  refine earned_eq_of_none (Nat.le_succ last) fun slot amount hlater hless hearns => ?_
  obtain rfl : slot = last := Nat.le_antisymm (Nat.lt_succ_iff.mp hless) hlater
  exact hnone amount (hearns.at_arrival hran harrives)

/-- A pass that is there gets at a slot what the run that is called there adds. -/
theorem earned_adds_succ {ran : PassId} (hran : schedule[last]? = some ran)
    (harrives : Arrives timing schedule start last here)
    (hpresent : ∃ pass, here.world.catalog.find? id = some pass) :
    earned (Adds id) timing schedule start (last + 1) =
      earned (Adds id) timing schedule start last + Effect.sum (here.performed last ran) id :=
  earned_succ (tells_adds id) hran harrives ⟨hpresent, rfl⟩

/-! ## Executions -/

/-- The counters after a slot, if they are accounted for up to it. -/
theorem Arrives.accrues_slot (hkeeping : start.world.catalog.Keeping)
    (harrives : Arrives timing schedule start last here)
    (haccrued : start.world.catalog.Accrues here.world.catalog fun id =>
      UInt64.ofNat (earned (Rewards id) timing schedule start last +
        earned (Adds id) timing schedule start last))
    {ran : PassId} (hran : schedule[last]? = some ran) :
    start.world.catalog.Accrues (here.executeSlot timing last ran).2.world.catalog fun id =>
      UInt64.ofNat (earned (Rewards id) timing schedule start (last + 1) +
        earned (Adds id) timing schedule start (last + 1)) := by
  have hpresent : ∀ id pass, start.world.catalog.find? id = some pass →
      ∃ found, here.world.catalog.find? id = some found := by
    intro id pass hpass
    refine Option.ne_none_iff_exists'.mp fun hnone => ?_
    rw [haccrued.find?_eq_none_iff, hpass] at hnone
    cases hnone
  rcases accrues_executeSlot (haccrued.keeping hkeeping) timing last ran with
    ⟨changes, hcredits, hslot⟩ | ⟨hnone, hslot⟩
  · refine (haccrued.trans hslot).congr fun id pass hpass => ?_
    rw [earned_adds_succ hran harrives (hpresent id pass hpass)]
    by_cases hid : id = ran
    · rw [earned_succ (tells_rewards id) hran harrives ⟨hid.symm, changes, hcredits, rfl⟩,
        if_pos hid]
      simp only [UInt64.ofNat_add, UInt64.ofNat_toNat]
      grind
    · rw [earned_succ_of_none hran harrives fun amount hamount => hid hamount.1.symm, if_neg hid]
      simp only [UInt64.ofNat_add]
      grind
  · refine (haccrued.trans hslot).congr fun id pass hpass => ?_
    rw [earned_adds_succ hran harrives (hpresent id pass hpass),
      earned_succ_of_none hran harrives]
    · simp only [UInt64.ofNat_add]
      grind
    · rintro amount ⟨-, changes, hcredits, -⟩
      exact hnone changes hcredits

/-- The counters at a slot are those at the beginning, and what the slots before have added.  The
induction is on the slots at which the execution has arrived. -/
theorem Arrives.accrues (hkeeping : start.world.catalog.Keeping)
    (harrives : Arrives timing schedule start last here) :
    start.world.catalog.Accrues here.world.catalog fun id =>
      UInt64.ofNat (earned (Rewards id) timing schedule start last +
        earned (Adds id) timing schedule start last) := by
  induction last generalizing here with
  | zero =>
    rw [harrives.unique arrives_zero]
    have hnothing : ∀ amounts, earned amounts timing schedule start 0 = 0 := by
      intro amounts
      simp [earned]
    simp only [hnothing]
    exact .refl _
  | succ last ih =>
    obtain ⟨ran, before, hran, hbefore, -, rfl⟩ := arrives_succ_iff.mp harrives
    exact hbefore.accrues_slot hkeeping (ih hbefore) hran

end Site

end PassPipeline
