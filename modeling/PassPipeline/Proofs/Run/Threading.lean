import PassPipeline.Proofs.History.Indexes
import PassPipeline.Proofs.Run.Effects
import PassPipeline.Proofs.Run.Prerequisites
import PassPipeline.Proofs.Run.Steps

/-!
# How results are threaded through a run

The results that a run leaves are the default results, changed by the effects of the runs that
it calls, one slot after the other (`results_threaded`).  How the run ends makes no difference:
what a pass has stored before it fails or dies stays, and nothing that an earlier run has left
comes back.

A pass reaches the results and not the manager, so the selection, the dependencies and the
schedule cannot change under an execution, whatever becomes of the catalogue.  The flags in the
catalogue are read again by the next collection.

The effects are followed through a run for anything that is seen of the results and the stream
and is changed by effects alone (`Tracks`).  A slot is taken apart in `Tracks.executeSlot`, the
slots are put together in `Tracks.arrives`, and `Tracks.executeFrom` deals with the slots that an
execution does not come to.
-/

namespace PassPipeline

/-! ## Results -/

namespace Results

/-- The results after an effect.  Only storing and discarding change them. -/
def after (results : Results) : Effect → Results
  | .store id value => results.insert id value
  | .discard id => results.erase id
  | _ => results

/-- Every value was there before, or one of the effects has stored it. -/
theorem stored_of_getElem? {effects : List Effect} {results : Results} {id : PassId}
    {value : Value} (hvalue : (effects.foldl after results)[id]? = some value) :
    results[id]? = some value ∨ .store id value ∈ effects := by
  induction effects generalizing results with
  | nil => exact Or.inl hvalue
  | cons effect rest ih =>
      rcases ih hvalue with hbefore | hstored
      · cases effect with
        | store other found =>
            rw [after, Std.ExtTreeMap.getElem?_insert] at hbefore
            split at hbefore
            · next hsame =>
              rw [Std.LawfulEqCmp.compare_eq_iff_eq] at hsame
              cases hbefore
              exact Or.inr (hsame ▸ List.mem_cons_self)
            · exact Or.inl hbefore
        | discard other =>
            rw [after, Std.ExtTreeMap.getElem?_erase] at hbefore
            split at hbefore
            · cases hbefore
            · exact Or.inl hbefore
        | _ => exact Or.inl hbefore
      · exact Or.inr (List.mem_cons_of_mem effect hstored)

end Results

namespace Site

/-! ## What the effects are seen to change -/

/-- Each effect changes what is seen of the results and the stream, and it takes nothing but that
to tell how. -/
def Tracks {σ : Type} (view : Results → Stream → σ) (change : σ → Effect → σ) : Prop :=
  ∀ (scene : Scene) (effect : Effect),
    view (scene.perform effect).2.results (scene.perform effect).2.stream =
      change (view scene.results scene.stream) effect

theorem tracks_results : Tracks (fun results _ => results) Results.after := by
  intro scene effect
  cases effect with
  | write text =>
      rw [Scene.hears_write]
      rfl
  | mark id selected =>
      rw [Scene.perform]
      split <;> rfl
  | credit id count =>
      rw [Scene.perform]
      split <;> rfl
  | _ => rfl

variable {σ : Type} {view : Results → Stream → σ} {change : σ → Effect → σ}

/-- A program changes what is seen by its effects, also if it dies of the last one. -/
theorem Tracks.exec (htracks : Tracks view change) {α : Type} (program : Program α)
    (scene : Scene) :
    view (program.exec scene).2.results (program.exec scene).2.stream =
      (program.effects scene).foldl change (view scene.results scene.stream) := by
  induction program generalizing scene with
  | done value => rfl
  | perform effect next ih =>
      have hperform := htracks scene effect
      rw [Program.exec, Program.effects, List.foldl_cons, ← hperform]
      rcases scene.perform effect with ⟨_ | answer, after⟩
      · rfl
      · exact ih answer after

/-! ## The effects of slots -/

/-- The effects of the run that the slot calls, if it calls one. -/
def performed (here : Site) (slot : Nat) (id : PassId) : List Effect :=
  match here.world.catalog.find? id with
  | none => []
  | some pass =>
    if slot = 0 && here.manager.results.contains id then []
    else pass.behaviour.run.effects (here.entrance pass)

theorem performed_of_missing {here : Site} {id : PassId} (slot : Nat)
    (hfind : here.world.catalog.find? id = none) : here.performed slot id = [] := by
  rw [performed, hfind]

theorem performed_of_satisfied {here : Site} {slot : Nat} {id : PassId}
    (hsatisfied : here.Satisfied slot id) : here.performed slot id = [] := by
  unfold performed
  split
  · rfl
  · exact if_pos (by simpa [Satisfied] using hsatisfied)

theorem performed_of_unsatisfied {here : Site} {slot : Nat} {id : PassId} {pass : Descriptor}
    (hfind : here.world.catalog.find? id = some pass) (hsatisfied : ¬ here.Satisfied slot id) :
    here.performed slot id = pass.behaviour.run.effects (here.entrance pass) := by
  rw [performed, hfind]
  exact if_neg (by simpa [Satisfied] using hsatisfied)

/-- What is seen of the results and the stream. -/
def seen (view : Results → Stream → σ) (site : Site) : σ :=
  view site.manager.results site.manager.stream

/-- A slot changes what is seen by the effects of the run that it calls, whatever it comes to. -/
theorem Tracks.executeSlot (htracks : Tracks view change) (here : Site) (timing : Timing)
    (slot : Nat) (id : PassId) :
    (here.executeSlot timing slot id).2.seen view =
      (here.performed slot id).foldl change (here.seen view) := by
  have hran : ∀ {pass : Descriptor} {result : Option Report} {scene : Scene},
      here.world.catalog.find? id = some pass → ¬ here.Satisfied slot id →
      pass.behaviour.run.exec (here.entrance pass) = (result, scene) →
      view scene.results scene.stream =
        (here.performed slot id).foldl change (here.seen view) := by
    intro pass result scene hfind hsatisfied hexec
    rw [performed_of_unsatisfied hfind hsatisfied,
      ← congrArg (fun ended => view ended.2.results ended.2.stream) hexec]
    exact htracks.exec _ _
  have hstep := here.slotStep timing slot id
  generalize here.executeSlot timing slot id = result at hstep
  cases hstep with
  | missing hfind => rw [performed_of_missing slot hfind, List.foldl_nil]
  | skipped _ hsatisfied =>
      rw [performed_of_satisfied hsatisfied, List.foldl_nil]
      rfl
  | panicked hfind hsatisfied hexec => exact hran hfind hsatisfied hexec
  | failed hfind hsatisfied hexec _ => exact hran hfind hsatisfied hexec
  | completed hfind hsatisfied hexec _ _ => exact hran hfind hsatisfied hexec

/-! ## The effects of executions -/

variable {timing : Timing} {schedule : List PassId} {start : Site}

/-- The effects of the run that the execution that begins in `start` calls at the slot.  There
are none if it does not arrive there. -/
def effectsAt (timing : Timing) (schedule : List PassId) (start : Site) (slot : Nat) :
    List Effect :=
  match schedule[slot]?, executeFrom timing 0 (schedule.take slot) start with
  | some id, (.ok true, here) => here.performed slot id
  | _, _ => []

theorem Arrives.effectsAt_eq {slot : Nat} {here : Site} {id : PassId}
    (harrives : Arrives timing schedule start slot here) (hid : schedule[slot]? = some id) :
    effectsAt timing schedule start slot = here.performed slot id := by
  rw [effectsAt, hid, harrives.run_eq]

theorem effectsAt_eq_nil {slot : Nat}
    (hnever : ∀ id here, schedule[slot]? = some id → ¬ Arrives timing schedule start slot here) :
    effectsAt timing schedule start slot = [] := by
  unfold effectsAt
  split
  · next id here hid hrun =>
    have hwithin : slot ≤ schedule.length :=
      Nat.le_of_lt (List.getElem?_eq_some_iff.mp hid).1
    exact absurd ⟨hwithin, hrun⟩ (hnever id here hid)
  · rfl

/-- The effects at each slot are those of the run that the execution calls there. -/
structure Performs (timing : Timing) (schedule : List PassId) (start : Site)
    (effects : Nat → List Effect) : Prop where
  invoked : ∀ slot id here, Invokes timing schedule start slot id here →
    ∃ pass, here.world.catalog.find? id = some pass ∧
      effects slot = pass.behaviour.run.effects (here.entrance pass)
  silent : ∀ slot, (∀ id here, ¬ Invokes timing schedule start slot id here) → effects slot = []

theorem performs (timing : Timing) (schedule : List PassId) (start : Site) :
    Performs timing schedule start (effectsAt timing schedule start) where
  invoked slot id here hinvokes := by
    obtain ⟨harrives, hid, ⟨pass, hfind⟩, hunsatisfied⟩ := invokes_iff.mp hinvokes
    refine ⟨pass, hfind, ?_⟩
    rw [harrives.effectsAt_eq hid, performed_of_unsatisfied hfind hunsatisfied]
  silent slot hsilent := by
    by_cases hcomes : ∃ id here, schedule[slot]? = some id ∧ Arrives timing schedule start slot here
    · obtain ⟨id, here, hid, harrives⟩ := hcomes
      rw [harrives.effectsAt_eq hid]
      cases hfind : here.world.catalog.find? id with
      | none => exact performed_of_missing slot hfind
      | some pass =>
          refine performed_of_satisfied (by_contra fun hunsatisfied => ?_)
          exact hsilent id here (invokes_iff.mpr ⟨harrives, hid, ⟨pass, hfind⟩, hunsatisfied⟩)
    · exact effectsAt_eq_nil fun id here hid harrives => hcomes ⟨id, here, hid, harrives⟩

theorem Performs.eq_effectsAt {effects : Nat → List Effect}
    (hperforms : Performs timing schedule start effects) :
    effects = effectsAt timing schedule start := by
  funext slot
  by_cases hinvoked : ∃ id here, Invokes timing schedule start slot id here
  · obtain ⟨id, here, hinvokes⟩ := hinvoked
    obtain ⟨pass, hfind, heffects⟩ := hperforms.invoked slot id here hinvokes
    obtain ⟨other, hother, hat⟩ := (performs timing schedule start).invoked slot id here hinvokes
    cases hfind.symm.trans hother
    rw [heffects, hat]
  · have hsilent : ∀ id here, ¬ Invokes timing schedule start slot id here :=
      fun id here hinvokes => hinvoked ⟨id, here, hinvokes⟩
    rw [hperforms.silent slot hsilent, (performs timing schedule start).silent slot hsilent]

/-- The induction is on the slots at which the execution has arrived. -/
theorem Tracks.arrives (htracks : Tracks view change) {slot : Nat} {here : Site}
    (harrives : Arrives timing schedule start slot here) :
    here.seen view =
      ((List.range slot).flatMap (effectsAt timing schedule start)).foldl change
        (start.seen view) := by
  induction slot generalizing here with
  | zero => rw [harrives.unique arrives_zero, List.range_zero, List.flatMap_nil, List.foldl_nil]
  | succ slot ih =>
      obtain ⟨id, before, hid, hbefore, -, rfl⟩ := arrives_succ_iff.mp harrives
      rw [htracks.executeSlot, ih hbefore, ← hbefore.effectsAt_eq hid, List.range_succ,
        List.flatMap_append, List.foldl_append, List.flatMap_singleton]

/-- Nothing is performed after a slot that does not let the execution go on. -/
theorem Arrives.flatMap_effectsAt {last : Nat} {here : Site} {id : PassId}
    (harrives : Arrives timing schedule start last here) (hid : schedule[last]? = some id)
    (hstuck : ¬ here.GoesOn timing last id) :
    (List.range schedule.length).flatMap (effectsAt timing schedule start) =
      (List.range last).flatMap (effectsAt timing schedule start) ++ here.performed last id := by
  have hafter : ∀ slot, last < slot → effectsAt timing schedule start slot = [] := by
    intro slot hslot
    refine effectsAt_eq_nil fun other found _ hfound => ?_
    have hle := hfound.le_of_stuck harrives (stuck_of_getElem? hid hstuck)
    omega
  have hrest : ∀ length, last < length →
      (List.range length).flatMap (effectsAt timing schedule start) =
        (List.range (last + 1)).flatMap (effectsAt timing schedule start) := by
    intro length hlength
    induction length, hlength using Nat.le_induction with
    | base => rfl
    | succ length hle ih =>
        rw [List.range_succ, List.flatMap_append, ih, List.flatMap_singleton, hafter length hle,
          List.append_nil]
  rw [hrest schedule.length (List.getElem?_eq_some_iff.mp hid).1, List.range_succ,
    List.flatMap_append, List.flatMap_singleton, harrives.effectsAt_eq hid]

theorem Tracks.executeFrom (htracks : Tracks view change) (timing : Timing)
    (schedule : List PassId) (start : Site) :
    (executeFrom timing 0 schedule start).2.seen view =
      ((List.range schedule.length).flatMap (effectsAt timing schedule start)).foldl change
        (start.seen view) := by
  have hstuck : ∀ {slot : Nat} {here after : Site} {id : PassId} {outcome : SlotOutcome},
      Arrives timing schedule start slot here → schedule[slot]? = some id →
      here.executeSlot timing slot id = (outcome, after) → ¬ here.GoesOn timing slot id →
      after.seen view =
        ((List.range schedule.length).flatMap (effectsAt timing schedule start)).foldl change
          (start.seen view) := by
    intro slot here after id outcome harrives hid hslot hstays
    rw [harrives.flatMap_effectsAt hid hstays, List.foldl_append, ← htracks.arrives harrives,
      ← htracks.executeSlot here timing slot id, hslot]
  have hends := ends timing schedule start
  generalize Site.executeFrom timing 0 schedule start = result at hends
  cases hends with
  | finished harrives => exact htracks.arrives harrives
  | failed harrives hid hslot =>
      exact hstuck harrives hid hslot (by simp [GoesOn, hslot])
  | halted harrives hid hslot =>
      exact hstuck harrives hid hslot (by simp [GoesOn, hslot])

/-- What a run leaves that executes a schedule is what it began with, changed by the effects of
the runs that it calls. -/
theorem Tracks.run (htracks : Tracks view change) {site ready : Site}
    (hexecutes : site.Executes timing ready schedule) :
    (site.run timing).2.seen view =
      ((List.range schedule.length).flatMap
        (effectsAt timing schedule (ready.commit timing schedule))).foldl change
          (view site.manager.defaultResults site.manager.stream) := by
  have hslots := htracks.executeFrom timing schedule (ready.commit timing schedule)
  obtain ⟨trace, hrun⟩ := hexecutes.run_slots
    (Prod.mk.eta (p := Site.executeFrom timing 0 schedule (ready.commit timing schedule))).symm
  obtain ⟨selected, dependencies, told, hcommit⟩ := hexecutes.isReady.commit_eq schedule
  rw [hrun]
  refine hslots.trans ?_
  rw [seen, hcommit]

/-! ## The flags -/

/-- The pass is under management, and its flag in the catalogue is set. -/
def Flagged (site : Site) (id : PassId) : Prop :=
  id ∈ site.manager.managed ∧ ∃ pass, site.world.catalog.find? id = some pass ∧
    pass.selected = true

/-- A collection selects the passes that are flagged when it is made, up to the first pass that
is not in the catalogue. -/
theorem mem_selected_collect (site : Site) (id : PassId) :
    id ∈ site.collect.2.manager.selected ↔
      site.Flagged id ∧ ∀ missing ∈ site.manager.managed,
        site.world.catalog.find? missing = none → id.toNat < missing.toNat := by
  rcases site.collect_cases with ⟨-, hgathered⟩ | ⟨first, hmanaged, hfirst, -, hgathered⟩
  · rw [hgathered.mem_selected, Flagged]
    refine ⟨fun hselected => ⟨hselected, fun missing hmissing hnone => ?_⟩, fun hboth => hboth.1⟩
    obtain ⟨pass, hfind⟩ := hgathered.known missing hmissing
    cases hfind.symm.trans hnone
  · rw [hgathered.mem_selected, Flagged]
    constructor
    · rintro ⟨⟨hid, hbefore⟩, hflag⟩
      refine ⟨⟨hid, hflag⟩, fun missing hmissing hnone => Nat.lt_of_not_le fun hle => ?_⟩
      have hasked : missing.toNat < first.toNat := Nat.lt_of_le_of_lt hle hbefore
      obtain ⟨pass, hfind⟩ := hgathered.known missing ⟨hmissing, hasked⟩
      cases hfind.symm.trans hnone
    · rintro ⟨⟨hid, hflag⟩, hbefore⟩
      exact ⟨⟨hid, hbefore first hmanaged hfirst⟩, hflag⟩

theorem mem_selected_of_collected {site : Site} (hcollect : site.collect.1 = .ok ())
    (id : PassId) : id ∈ site.collect.2.manager.selected ↔ site.Flagged id := by
  rcases site.collect_cases with ⟨-, hgathered⟩ | ⟨first, -, -, herror, -⟩
  · exact hgathered.mem_selected id
  · cases hcollect.symm.trans herror

/-- A run selects the passes that were flagged when it began, or else the default pass. -/
theorem Ready.mem_selected {site ready : Site} {timing : Timing}
    (hready : site.Ready timing ready) (id : PassId) :
    id ∈ ready.manager.selected ↔
      site.Flagged id ∨
        ((∀ other, ¬ site.Flagged other) ∧ site.manager.defaultPass = some id) := by
  have hflagged := mem_selected_of_collected hready.collect_eq
  obtain ⟨selected, dependencies, trace, hframe⟩ := site.collect_frame
  cases hready with
  | @chosen after hcollect hselected =>
      rw [hcollect] at hflagged
      -- What is selected without the default pass was flagged.
      have hsome : ∃ other, site.Flagged other := by
        by_contra hnone
        have hempty : after.manager.selected = ∅ :=
          Std.ExtTreeSet.ext_mem fun other => by
            rw [hflagged other]
            simpa using fun hother => hnone ⟨other, hother⟩
        simp [hempty] at hselected
      obtain ⟨other, hother⟩ := hsome
      refine (hflagged id).trans ⟨Or.inl, ?_⟩
      rintro (hid | ⟨hnone, -⟩)
      · exact hid
      · exact absurd hother (hnone other)
  | @byDefault after found hcollect hselected hdefault =>
      rw [hcollect] at hflagged hframe
      have hnone : ∀ other, ¬ site.Flagged other := by
        intro other hother
        have hmem := (hflagged other).mpr hother
        rw [Std.ExtTreeSet.isEmpty_iff.mp hselected] at hmem
        simp at hmem
      have hsame : site.manager.defaultPass = some found := by
        rw [← hdefault, show after = _ from hframe]
      have hinsert : id ∈ after.manager.selected.insert found ↔ found = id := by
        rw [Std.ExtTreeSet.isEmpty_iff.mp hselected]
        simp
      refine hinsert.trans ?_
      rw [hsame, Option.some_inj]
      exact ⟨fun heq => Or.inr ⟨hnone, heq⟩, fun hcase => (hcase.resolve_left (hnone id)).2⟩

/-- However a run ends that collects, its selection stays. -/
theorem mem_selected_run {site : Site} (hcollect : site.collect.1 = .ok ()) (timing : Timing)
    (id : PassId) :
    id ∈ (site.run timing).2.manager.selected ↔
      site.Flagged id ∨
        ((∀ other, ¬ site.Flagged other) ∧ site.manager.defaultPass = some id) := by
  cases site.course timing with
  | uncollected hfailed _ =>
      rw [hfailed] at hcollect
      cases hcollect
  | @idle after hdone hselected hdefault hrun =>
      have hflagged := mem_selected_of_collected hcollect
      obtain ⟨selected, dependencies, trace, hframe⟩ := site.collect_frame
      rw [hdone] at hflagged hframe
      have hnone : site.manager.defaultPass = none := by
        rw [← hdefault, show after = _ from hframe]
      have hsame : (site.run timing).2.manager.selected = after.manager.selected := by
        rw [hrun]
        rfl
      rw [hsame, hflagged, hnone]
      simp
  | @dumped ready hdumps hrun =>
      obtain ⟨stream, trace, hdumped⟩ := ready.runDump_frame
      rw [hrun, hdumped]
      exact hdumps.isReady.mem_selected id
  | unplanned hready _ _ hrun =>
      rw [hrun]
      exact hready.mem_selected id
  | @executed ready schedule hexecutes hrun =>
      obtain ⟨results, stream, metrics, hexecuted⟩ := ready.execute_frame timing schedule
      rw [hrun, hexecuted]
      exact hexecutes.isReady.mem_selected id

/-! ## Runs -/

/-- What becomes of the results, and of what a run goes by, when it executes the schedule. -/
structure Threads (site : Site) (timing : Timing) (ready : Site) (schedule : List PassId) :
    Prop where
  /-- The results are the default results after all effects of the runs that were called. -/
  results : ∃ effects, Performs timing schedule (ready.commit timing schedule) effects ∧
    (site.run timing).2.manager.results =
      ((List.range schedule.length).flatMap effects).foldl Results.after
        site.manager.defaultResults
  /-- A value that is there afterwards is a default, or a run that was called has stored it. -/
  origin : ∀ id value, (site.run timing).2.manager.results[id]? = some value →
    site.manager.defaultResults[id]? = some value ∨
      ∃ slot caller here pass,
        Invokes timing schedule (ready.commit timing schedule) slot caller here ∧
        here.world.catalog.find? caller = some pass ∧
        .store id value ∈ pass.behaviour.run.effects (here.entrance pass)
  /-- At every slot the manager is the one that began, but for what slots are there for. -/
  held : ∀ slot here, Arrives timing schedule (ready.commit timing schedule) slot here →
    ∃ results stream metrics,
      here.manager = { ready.manager with schedule, results, stream, metrics }
  kept : ∃ results stream metrics,
    (site.run timing).2.manager = { ready.manager with schedule, results, stream, metrics }
  /-- The selection is read from the flags that were set when the run began. -/
  chosen : ∀ id, id ∈ ready.manager.selected ↔
    site.Flagged id ∨ ((∀ other, ¬ site.Flagged other) ∧ site.manager.defaultPass = some id)
  /-- The next collection reads the flags as the run has left them. -/
  next : ∀ id, id ∈ (site.run timing).2.collect.2.manager.selected ↔
    (site.run timing).2.Flagged id ∧ ∀ missing ∈ (site.run timing).2.manager.managed,
      (site.run timing).2.world.catalog.find? missing = none → id.toNat < missing.toNat
  /-- Only the leading slot can be skipped, and it is if there is a default value for it. -/
  skips : ∀ slot id here, Arrives timing schedule (ready.commit timing schedule) slot here →
    schedule[slot]? = some id →
    (here.Skips timing slot id ↔
      slot = 0 ∧ (∃ pass, site.world.catalog.find? id = some pass) ∧
        site.manager.defaultResults.contains id = true)

theorem skips_iff {here : Site} {slot : Nat} {id : PassId} :
    here.Skips timing slot id ↔
      (∃ pass, here.world.catalog.find? id = some pass) ∧ here.Satisfied slot id := by
  constructor
  · rintro ⟨hresolved, hsatisfied, -, -⟩
    exact ⟨hresolved, hsatisfied⟩
  · rintro ⟨⟨pass, hfind⟩, hsatisfied⟩
    obtain ⟨events, hcourse, hlifecycle⟩ := here.slotCourse timing slot id
    generalize houtcome : (here.executeSlot timing slot id).1 = outcome at hcourse
    cases hcourse with
    | missing hnone => cases hfind.symm.trans hnone
    | skipped _ _ => exact ⟨⟨pass, hfind⟩, hsatisfied, houtcome, by simpa using hlifecycle⟩
    | panicked _ hunsatisfied _ => exact absurd hsatisfied hunsatisfied
    | failed _ hunsatisfied _ _ => exact absurd hsatisfied hunsatisfied
    | completed _ hunsatisfied _ _ _ => exact absurd hsatisfied hunsatisfied

theorem Executes.results_eq {site ready : Site} (hexecutes : site.Executes timing ready schedule) :
    (site.run timing).2.manager.results =
      ((List.range schedule.length).flatMap
        (effectsAt timing schedule (ready.commit timing schedule))).foldl Results.after
          site.manager.defaultResults := tracks_results.run hexecutes

theorem Executes.threads {site ready : Site} (hexecutes : site.Executes timing ready schedule) :
    site.Threads timing ready schedule where
  results := ⟨_, performs _ _ _, hexecutes.results_eq⟩
  origin id value hvalue := by
    rw [hexecutes.results_eq] at hvalue
    refine (Results.stored_of_getElem? hvalue).imp_right fun hstored => ?_
    obtain ⟨slot, -, heffect⟩ := List.mem_flatMap.mp hstored
    have hperforms := performs timing schedule (ready.commit timing schedule)
    by_cases hinvoked : ∃ caller here,
        Invokes timing schedule (ready.commit timing schedule) slot caller here
    · obtain ⟨caller, here, hinvokes⟩ := hinvoked
      obtain ⟨pass, hfind, heffects⟩ := hperforms.invoked slot caller here hinvokes
      exact ⟨slot, caller, here, pass, hinvokes, hfind, heffects ▸ heffect⟩
    · rw [hperforms.silent slot fun caller here hinvokes => hinvoked ⟨caller, here, hinvokes⟩]
        at heffect
      cases heffect
  held slot here harrives := by
    obtain ⟨results, stream, metrics, hframe⟩ := harrives.frame
    exact ⟨results, stream, metrics, hframe⟩
  kept := by
    rw [hexecutes.run_eq]
    exact ready.execute_frame timing schedule
  chosen := hexecutes.isReady.mem_selected
  next := (site.run timing).2.mem_selected_collect
  skips slot id here harrives hid := by
    have hresults : (ready.commit timing schedule).manager.results =
        site.manager.defaultResults := hexecutes.isReady.defaultResults_eq
    obtain ⟨selected, trace, hready⟩ := hexecutes.isReady.frame
    rw [skips_iff, harrives.satisfied_iff, hresults]
    -- The catalogue at the leading slot is the one with which the run has begun.
    have hcatalog : slot = 0 → here.world.catalog = site.world.catalog := by
      rintro rfl
      rw [harrives.unique arrives_zero, hready]
      rfl
    constructor
    · rintro ⟨hfind, rfl, hvalue⟩
      rw [hcatalog rfl] at hfind
      exact ⟨rfl, hfind, hvalue⟩
    · rintro ⟨rfl, hfind, hvalue⟩
      rw [hcatalog rfl]
      exact ⟨hfind, rfl, hvalue⟩

/-- No run changes the default results.  A run that executes a schedule starts from them, and
changes the results only by the effects of the runs that it calls. -/
theorem results_threaded (site : Site) (timing : Timing) :
    (site.run timing).2.manager.defaultResults = site.manager.defaultResults ∧
    ∀ ready schedule, site.Executes timing ready schedule →
      site.Threads timing ready schedule := by
  refine ⟨?_, fun ready schedule hexecutes => hexecutes.threads⟩
  obtain ⟨selected, schedule, results, stream, metrics, hframe⟩ := site.run_frame timing
  rw [hframe]

/-- The pass `1` of `rash`, which dies after it has stored a value, discarded the value of its
prerequisite, and taken the prerequisite out of the catalogue. -/
def rashRun : Program Report :=
  .perform (.store ⟨1⟩ .unit) fun _ =>
    .perform (.discard ⟨2⟩) fun _ =>
      .perform (.withdraw ⟨2⟩) fun _ => .perform .panic nofun

/-- Pass `1` is selected and requires `2`.  There is a default value for `2`, and an earlier run
has left a value for `3`. -/
def rash : Site where
  manager := {
    own := ⟨0⟩
    managed := (∅ : IdSet).insert ⟨0⟩ |>.insert ⟨1⟩ |>.insert ⟨2⟩
    defaultResults := (∅ : Results).insert ⟨2⟩ .unit
    results := (∅ : Results).insert ⟨3⟩ .unit }
  world := {
    catalog := {
      admission := .free
      entries := (∅ : IdMap Descriptor)
        |>.insert ⟨0⟩ { Manager.registration with id := ⟨0⟩ }
        |>.insert ⟨1⟩ {
          name := "Rash", arg := "rash", id := ⟨1⟩, selected := true
          behaviour := { declarations := [.require ⟨2⟩], run := rashRun } }
        |>.insert ⟨2⟩ {
          name := "Load", arg := "load", id := ⟨2⟩
          behaviour := { run := .done { succeeded := true } } } } }

/-- The run of `rash` when it is ready. -/
def rashReady : Site := rash.collect.2.log .debug .execution "selection: done" (some 0)

theorem executes_rash : rash.Executes {} rashReady [⟨2⟩, ⟨1⟩] where
  isReady := .chosen (Prod.ext (by decide) rfl) (by decide)
  notOwn := by decide
  planned := by decide +kernel

theorem results_threaded_panicked :
    rash.Executes {} rashReady [⟨2⟩, ⟨1⟩] ∧
    (rash.run {}).1 = .error .panicked ∧
    (rashReady.commit {} [⟨2⟩, ⟨1⟩]).Skips {} 0 ⟨2⟩ ∧
    ∃ effects, Performs {} [⟨2⟩, ⟨1⟩] (rashReady.commit {} [⟨2⟩, ⟨1⟩]) effects ∧
      (rash.run {}).2.manager.results =
        (effects 0 ++ effects 1).foldl Results.after rash.manager.defaultResults := by
  have hthreads := (results_threaded rash {}).2 _ _ executes_rash
  obtain ⟨effects, hperforms, hresults⟩ := hthreads.results
  refine ⟨executes_rash, by decide +kernel, ?_, effects, hperforms, ?_⟩
  · exact (hthreads.skips 0 ⟨2⟩ _ arrives_zero rfl).mpr ⟨rfl, ⟨_, rfl⟩, by decide⟩
  · have hslots : (List.range 2).flatMap effects = effects 0 ++ effects 1 := by
      simp [List.range_succ]
    rw [hresults, ← hslots]
    rfl

end Site

end PassPipeline
