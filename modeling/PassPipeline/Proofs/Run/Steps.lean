import PassPipeline.Proofs.Run.Frame
import PassPipeline.Proofs.Run.Slots

/-!
# What a slot leaves

`SlotCourse` tells what a slot comes to and what is called.  `SlotStep` tells what it leaves:
the results, the stream and the surroundings as the program of the pass has left them, one
count more, and the changes of a completed slot in the catalogue.  Only the trace is left
open.  Everything that is said about the state of an execution opens a slot by `slotStep`.
-/

namespace PassPipeline

/-- The counters after a change that is made only if the settings ask for it. -/
def Manager.counted (manager : Manager) (change : Metrics → Metrics) : Metrics :=
  if manager.settings.recordMetrics then change manager.metrics else manager.metrics

namespace Site

/-- What a fresh instance of the pass can reach when its run begins. -/
def entrance (here : Site) (pass : Descriptor) : Scene := (here.prepare pass).scene pass

theorem entrance_eq (here : Site) (pass : Descriptor) :
    ∃ trace, here.entrance pass =
      { self := pass.id
        name := pass.name
        results := here.manager.results
        stream := here.manager.stream
        world := { here.world with trace } } := by
  have hprepare : ∃ trace, here.prepare pass = { here with world := { here.world with trace } } :=
    ⟨_, rfl⟩
  obtain ⟨trace, hprepare⟩ := hprepare
  rw [entrance, hprepare]
  exact ⟨trace, rfl⟩

/-! ## The ends of a slot -/

theorem count_eq (site : Site) (change : Metrics → Metrics) :
    site.count change =
      { site with manager := { site.manager with metrics := site.manager.counted change } } := by
  unfold count Manager.counted
  split <;> rfl

theorem abandon_eq (site : Site) (slot : Nat) (pass : Descriptor) (stage : String) :
    ∃ trace, site.abandon slot pass stage =
      (.failed,
        { manager := { site.manager with
            metrics := site.manager.counted (·.recordFailure pass.name) }
          world := { site.world with trace } }) := by
  rw [abandon, count_eq]
  exact ⟨_, rfl⟩

theorem complete_eq (site : Site) (timing : Timing) (slot : Nat) (pass : Descriptor)
    (changes : UInt64) :
    ∃ trace, site.complete timing slot pass changes =
      (.completed,
        { manager := { site.manager with
            metrics := site.manager.counted
              (·.recordExecution pass.name (timing.slot slot) (timing.finished slot)) }
          world := { site.world with
            trace, catalog := site.world.catalog.update pass.id (·.addChanges changes) } }) := by
  rw [complete, count_eq]
  exact ⟨_, rfl⟩

theorem conclude_of_failed (site : Site) (timing : Timing) (slot : Nat) (pass : Descriptor)
    {report : Report} (hfailed : (report.succeeded && report.verified) = false) :
    ∃ trace, site.conclude timing slot pass report =
      (.failed,
        { manager := { site.manager with
            metrics := site.manager.counted (·.recordFailure pass.name) }
          world := { site.world with trace } }) := by
  rw [conclude]
  cases hsucceeded : report.succeeded with
  | false => exact abandon_eq ..
  | true =>
      have hverified : report.verified = false := by simpa [hsucceeded] using hfailed
      simp only [hverified, if_true, Bool.false_eq_true, if_false]
      exact abandon_eq ..

theorem conclude_of_succeeded (site : Site) (timing : Timing) (slot : Nat) (pass : Descriptor)
    {report : Report} (hsucceeded : report.succeeded = true) (hverified : report.verified = true) :
    ∃ trace, site.conclude timing slot pass report =
      (.completed,
        { manager := { site.manager with
            metrics := site.manager.counted
              (·.recordExecution pass.name (timing.slot slot) (timing.finished slot)) }
          world := { site.world with
            trace
            catalog := site.world.catalog.update pass.id (·.addChanges report.changes) } }) := by
  rw [conclude]
  simp only [hsucceeded, hverified, if_true]
  exact complete_eq ..

/-! ## Slots -/

variable {here : Site} {slot : Nat} {id : PassId} {pass : Descriptor}

theorem executeSlot_of_missing (timing : Timing) (slot : Nat)
    (hfind : here.world.catalog.find? id = none) :
    here.executeSlot timing slot id = (.halted (.refused (.unknownPass id)), here) := by
  rw [executeSlot, Catalog.info_eq_error_iff.mpr ⟨hfind, rfl⟩]

theorem executeSlot_of_satisfied (timing : Timing)
    (hfind : here.world.catalog.find? id = some pass) (hsatisfied : here.Satisfied slot id) :
    ∃ trace, here.executeSlot timing slot id =
      (.skipped,
        { manager := { here.manager with metrics := here.manager.metrics.recordSkip }
          world := { here.world with trace } }) := by
  rw [executeSlot, Catalog.info_eq_ok_iff.mpr hfind]
  exact ⟨_, if_pos (by simpa [Satisfied] using hsatisfied)⟩

theorem executeSlot_of_unsatisfied (timing : Timing)
    (hfind : here.world.catalog.find? id = some pass) (hsatisfied : ¬ here.Satisfied slot id) :
    here.executeSlot timing slot id = here.invoke timing slot pass := by
  rw [executeSlot, Catalog.info_eq_ok_iff.mpr hfind]
  exact if_neg (by simpa [Satisfied] using hsatisfied)

theorem invoke_of_panicked {scene : Scene} (timing : Timing) (slot : Nat)
    (hexec : pass.behaviour.run.exec (here.entrance pass) = (none, scene)) :
    here.invoke timing slot pass =
      (.halted .panicked,
        { manager := { here.manager with results := scene.results, stream := scene.stream }
          world := scene.world }) := by
  rw [entrance] at hexec
  simp only [invoke, hexec]
  rfl

theorem invoke_of_failed {report : Report} {scene : Scene} (timing : Timing) (slot : Nat)
    (hexec : pass.behaviour.run.exec (here.entrance pass) = (some report, scene))
    (hfailed : (report.succeeded && report.verified) = false) :
    ∃ trace, here.invoke timing slot pass =
      (.failed,
        { manager := { here.manager with
            results := scene.results, stream := scene.stream
            metrics := here.manager.counted (·.recordFailure pass.name) }
          world := { scene.world with trace } }) := by
  rw [entrance] at hexec
  simp only [invoke, hexec]
  exact conclude_of_failed _ timing slot pass hfailed

theorem invoke_of_succeeded {report : Report} {scene : Scene} (timing : Timing) (slot : Nat)
    (hexec : pass.behaviour.run.exec (here.entrance pass) = (some report, scene))
    (hsucceeded : report.succeeded = true) (hverified : report.verified = true) :
    ∃ trace, here.invoke timing slot pass =
      (.completed,
        { manager := { here.manager with
            results := scene.results, stream := scene.stream
            metrics := here.manager.counted
              (·.recordExecution pass.name (timing.slot slot) (timing.finished slot)) }
          world := { scene.world with
            trace
            catalog := scene.world.catalog.update pass.id (·.addChanges report.changes) } }) := by
  rw [entrance] at hexec
  simp only [invoke, hexec]
  exact conclude_of_succeeded _ timing slot pass hsucceeded hverified

/-- What the execution of a slot comes to and what it leaves, but for the trace. -/
inductive SlotStep (here : Site) (timing : Timing) (slot : Nat) (id : PassId) :
    SlotOutcome × Site → Prop
  | missing (hfind : here.world.catalog.find? id = none) :
      SlotStep here timing slot id (.halted (.refused (.unknownPass id)), here)
  | skipped {pass : Descriptor} {trace : Array Event}
      (hfind : here.world.catalog.find? id = some pass) (hsatisfied : here.Satisfied slot id) :
      SlotStep here timing slot id
        (.skipped,
          { manager := { here.manager with metrics := here.manager.metrics.recordSkip }
            world := { here.world with trace } })
  | panicked {pass : Descriptor} {scene : Scene}
      (hfind : here.world.catalog.find? id = some pass) (hsatisfied : ¬ here.Satisfied slot id)
      (hexec : pass.behaviour.run.exec (here.entrance pass) = (none, scene)) :
      SlotStep here timing slot id
        (.halted .panicked,
          { manager := { here.manager with results := scene.results, stream := scene.stream }
            world := scene.world })
  | failed {pass : Descriptor} {report : Report} {scene : Scene} {trace : Array Event}
      (hfind : here.world.catalog.find? id = some pass) (hsatisfied : ¬ here.Satisfied slot id)
      (hexec : pass.behaviour.run.exec (here.entrance pass) = (some report, scene))
      (hfailed : (report.succeeded && report.verified) = false) :
      SlotStep here timing slot id
        (.failed,
          { manager := { here.manager with
              results := scene.results, stream := scene.stream
              metrics := here.manager.counted (·.recordFailure pass.name) }
            world := { scene.world with trace } })
  | completed {pass : Descriptor} {report : Report} {scene : Scene} {trace : Array Event}
      (hfind : here.world.catalog.find? id = some pass) (hsatisfied : ¬ here.Satisfied slot id)
      (hexec : pass.behaviour.run.exec (here.entrance pass) = (some report, scene))
      (hsucceeded : report.succeeded = true) (hverified : report.verified = true) :
      SlotStep here timing slot id
        (.completed,
          { manager := { here.manager with
              results := scene.results, stream := scene.stream
              metrics := here.manager.counted
                (·.recordExecution pass.name (timing.slot slot) (timing.finished slot)) }
            world := { scene.world with
              trace
              catalog := scene.world.catalog.update pass.id (·.addChanges report.changes) } })

theorem slotStep (here : Site) (timing : Timing) (slot : Nat) (id : PassId) :
    here.SlotStep timing slot id (here.executeSlot timing slot id) := by
  cases hfind : here.world.catalog.find? id with
  | none =>
      rw [executeSlot_of_missing timing slot hfind]
      exact .missing hfind
  | some pass =>
      by_cases hsatisfied : here.Satisfied slot id
      · obtain ⟨trace, hskip⟩ := executeSlot_of_satisfied timing hfind hsatisfied
        rw [hskip]
        exact .skipped hfind hsatisfied
      · rw [executeSlot_of_unsatisfied timing hfind hsatisfied]
        rcases hexec : pass.behaviour.run.exec (here.entrance pass) with ⟨_ | report, scene⟩
        · rw [invoke_of_panicked timing slot hexec]
          exact .panicked hfind hsatisfied hexec
        · cases hgood : report.succeeded && report.verified with
          | false =>
              obtain ⟨trace, hinvoke⟩ := invoke_of_failed timing slot hexec hgood
              rw [hinvoke]
              exact .failed hfind hsatisfied hexec hgood
          | true =>
              obtain ⟨hsucceeded, hverified⟩ := Bool.and_eq_true_iff.mp hgood
              obtain ⟨trace, hinvoke⟩ :=
                invoke_of_succeeded timing slot hexec hsucceeded hverified
              rw [hinvoke]
              exact .completed hfind hsatisfied hexec hsucceeded hverified

/-! ## Executions -/

variable {timing : Timing} {schedule : List PassId} {start : Site}

theorem Arrives.frame {slot : Nat} {here : Site}
    (harrives : Arrives timing schedule start slot here) :
    ∃ results stream metrics,
      here.manager = { start.manager with results, stream, metrics } := by
  have hframe := executeFrom_frame timing 0 (schedule.take slot) start
  rw [harrives.run_eq] at hframe
  exact hframe

/-- An execution comes no further than here: the schedule is at its end, or the slot does not let
the execution go on. -/
def Stuck (here : Site) (timing : Timing) (schedule : List PassId) (slot : Nat) : Prop :=
  ∀ id, schedule[slot]? = some id → ¬ here.GoesOn timing slot id

theorem stuck_of_getElem? {slot : Nat} {id : PassId} {here : Site}
    (hid : schedule[slot]? = some id) (hstays : ¬ here.GoesOn timing slot id) :
    here.Stuck timing schedule slot := by
  intro other hother
  cases hid.symm.trans hother
  exact hstays

theorem stuck_length (here : Site) (timing : Timing) (schedule : List PassId) :
    here.Stuck timing schedule schedule.length := by
  intro id hid
  rw [List.getElem?_eq_none (Nat.le_refl _)] at hid
  cases hid

/-- An execution does not get past a slot where it is stuck. -/
theorem Arrives.le_of_stuck {slot last : Nat} {found here : Site}
    (hfound : Arrives timing schedule start slot found)
    (hhere : Arrives timing schedule start last here)
    (hstuck : here.Stuck timing schedule last) : slot ≤ last := by
  refine Nat.le_of_not_lt fun hlast => ?_
  have hwithin : last < schedule.length := Nat.lt_of_lt_of_le hlast hfound.within
  have hid : schedule[last]? = some schedule[last] := List.getElem?_eq_getElem hwithin
  obtain ⟨passed, hpassed, hgoesOn⟩ := hfound.earlier hlast hid
  rw [hpassed.unique hhere] at hgoesOn
  exact hstuck _ hid hgoesOn

/-- An execution is stuck at one slot only. -/
theorem Arrives.eq_of_stuck {slot last : Nat} {found here : Site}
    (hfound : Arrives timing schedule start slot found)
    (hhere : Arrives timing schedule start last here)
    (hends : found.Stuck timing schedule slot) (hstuck : here.Stuck timing schedule last) :
    slot = last ∧ found = here := by
  have hle := hfound.le_of_stuck hhere hstuck
  have hge := hhere.le_of_stuck hfound hends
  obtain rfl : slot = last := Nat.le_antisymm hle hge
  exact ⟨rfl, hfound.unique hhere⟩

/-- An execution that arrives at a slot that fails ends there. -/
theorem Arrives.executeFrom_of_failed {slot : Nat} {here after : Site} {id : PassId}
    (harrives : Arrives timing schedule start slot here) (hid : schedule[slot]? = some id)
    (hfailed : here.executeSlot timing slot id = (.failed, after)) :
    executeFrom timing 0 schedule start = (.ok false, after) := by
  obtain ⟨hslot, rfl⟩ := List.getElem?_eq_some_iff.mp hid
  have hlength : 0 + (schedule.take slot).length = slot := by
    rw [List.length_take_of_le (Nat.le_of_lt hslot), Nat.zero_add]
  rw [← List.take_append_drop slot schedule, List.drop_eq_getElem_cons hslot, executeFrom_append,
    harrives.run_eq]
  dsimp only
  rw [hlength, executeFrom, hfailed]

/-- If what holds at a slot makes the execution go on, and holds again at the next one, then
the execution arrives at every slot, and it holds there. -/
theorem arrives_of_invariant (holds : Nat → Site → Prop) (hstart : holds 0 start)
    (hstep : ∀ slot id here, schedule[slot]? = some id → holds slot here →
      here.GoesOn timing slot id ∧ holds (slot + 1) (here.executeSlot timing slot id).2)
    {slot : Nat} (hslot : slot ≤ schedule.length) :
    ∃ here, Arrives timing schedule start slot here ∧ holds slot here := by
  induction slot with
  | zero => exact ⟨start, arrives_zero, hstart⟩
  | succ slot ih =>
      obtain ⟨here, harrives, hholds⟩ := ih (Nat.le_of_succ_le hslot)
      have hid : schedule[slot]? = some schedule[slot] := List.getElem?_eq_getElem hslot
      obtain ⟨hgoesOn, hnext⟩ := hstep slot schedule[slot] here hid hholds
      exact ⟨_, arrives_succ_iff.mpr ⟨_, here, hid, harrives, hgoesOn, rfl⟩, hnext⟩

/-- In particular it comes to the end of the schedule. -/
theorem executeFrom_of_invariant (holds : Nat → Site → Prop) (hstart : holds 0 start)
    (hstep : ∀ slot id here, schedule[slot]? = some id → holds slot here →
      here.GoesOn timing slot id ∧ holds (slot + 1) (here.executeSlot timing slot id).2) :
    ∃ here, executeFrom timing 0 schedule start = (.ok true, here) ∧
      holds schedule.length here := by
  obtain ⟨here, harrives, hholds⟩ := arrives_of_invariant holds hstart hstep (Nat.le_refl _)
  have hrun := harrives.run_eq
  rw [List.take_length] at hrun
  exact ⟨here, hrun, hholds⟩

/-- The first slot begins with the default results and with the schedule counted. -/
theorem Ready.commit_eq {site ready : Site} (hready : site.Ready timing ready)
    (schedule : List PassId) :
    ∃ selected dependencies trace,
      ready.commit timing schedule =
        { manager := { site.manager with
            selected, dependencies, schedule
            results := site.manager.defaultResults
            metrics := site.manager.metrics.recordSchedule schedule.length }
          world := { site.world with trace } } := by
  obtain ⟨selected, trace, rfl⟩ := hready.frame
  exact ⟨_, _, _, rfl⟩

/-- A run leaves what its slots leave, but for the trace. -/
theorem Executes.run_slots {site ready : Site} (hexecutes : site.Executes timing ready schedule)
    {result : Except Halt Bool} {after : Site}
    (hslots : executeFrom timing 0 schedule (ready.commit timing schedule) = (result, after)) :
    ∃ trace, site.run timing = (result, { after with world := { after.world with trace } }) := by
  rw [hexecutes.run_eq, execute, hslots]
  rcases result with halt | succeeded
  · exact ⟨after.world.trace, rfl⟩
  · cases succeeded with
    | false => exact ⟨after.world.trace, rfl⟩
    | true => exact ⟨_, rfl⟩

end Site

end PassPipeline
