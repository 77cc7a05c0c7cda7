import PassPipeline.Manager.Run
import PassPipeline.Proofs.Run.Collection

/-!
# The course of a run

A run can go five ways, which `course` tells apart: the collection fails, there is nothing
to run, the report is written in place of a run, no schedule can be built, or a schedule is
executed.  All that happens before an execution changes the manager only in what it has
collected and the world only in what was observed (`Ready.frame`).

An execution goes from slot to slot.  It *arrives* at a slot if the slots before it have
all been skipped or completed (`arrives_succ_iff`), and it ends at a slot at which it
arrives and which does not let it go on, or after the last one (`ends`).
-/

namespace PassPipeline.Site

/-! ## Up to the execution -/

/-- The run has collected, and something is selected: what the collection found, or else
the default pass. -/
inductive Ready (site : Site) (timing : Timing) : Site → Prop
  | chosen {after : Site} (hcollect : site.collect = (.ok (), after))
      (hselected : after.manager.selected.isEmpty = false) :
      Ready site timing
        (after.log .debug .execution "selection: done" (some timing.selection))
  | byDefault {after : Site} {id : PassId} (hcollect : site.collect = (.ok (), after))
      (hselected : after.manager.selected.isEmpty = true)
      (hdefault : after.manager.defaultPass = some id) :
      Ready site timing
        ((after.log .debug .execution "selection: done" (some timing.selection)).update
          fun manager => { manager with selected := manager.selected.insert id })

/-- The run writes the report, because the manager's own pass is selected. -/
structure Dumps (site : Site) (timing : Timing) (ready : Site) : Prop where
  isReady : site.Ready timing ready
  own : ready.manager.selected.contains ready.manager.own = true

/-- The run executes a schedule. -/
structure Executes (site : Site) (timing : Timing) (ready : Site) (schedule : List PassId) :
    Prop where
  isReady : site.Ready timing ready
  notOwn : ready.manager.selected.contains ready.manager.own = false
  planned : ready.plan = .ok schedule

theorem Ready.collect_eq {site ready : Site} {timing : Timing}
    (hready : site.Ready timing ready) : site.collect.1 = .ok () := by
  cases hready with
  | chosen hcollect _ => rw [hcollect]
  | byDefault hcollect _ _ => rw [hcollect]

theorem Ready.run_eq {site ready : Site} {timing : Timing} (hready : site.Ready timing ready) :
    site.run timing = ready.runSelected timing := by
  cases hready with
  | chosen hcollect hselected =>
      rw [run, hcollect]
      exact if_neg (by simpa [log, record] using hselected)
  | byDefault hcollect hselected hdefault =>
      rw [run, hcollect]
      refine (if_pos (by simpa [log, record] using hselected)).trans ?_
      rw [runDefault]
      split
      · next hnone => exact absurd (hdefault.symm.trans hnone) nofun
      · next id hid =>
        cases hdefault.symm.trans hid
        rfl

theorem Dumps.run_eq {site ready : Site} {timing : Timing} (hdumps : site.Dumps timing ready) :
    site.run timing = ready.runDump := by
  rw [hdumps.isReady.run_eq, runSelected, if_pos hdumps.own]

theorem Ready.run_of_unplanned {site ready : Site} {timing : Timing} {error : PassError}
    (hready : site.Ready timing ready)
    (hnotOwn : ready.manager.selected.contains ready.manager.own = false)
    (hplan : ready.plan = .error error) :
    site.run timing = (.error (.refused error), ready) := by
  rw [hready.run_eq, runSelected, if_neg (by simp [hnotOwn]), hplan]

theorem Executes.run_eq {site ready : Site} {timing : Timing} {schedule : List PassId}
    (hexecutes : site.Executes timing ready schedule) :
    site.run timing = ready.execute timing schedule := by
  rw [hexecutes.isReady.run_eq, runSelected, if_neg (by simp [hexecutes.notOwn]),
    hexecutes.planned]

/-- The ways a run can go. -/
inductive Course (site : Site) (timing : Timing) : Prop
  /-- The collection fails. -/
  | uncollected {error : PassError} {after : Site} (hcollect : site.collect = (.error error, after))
      (hrun : site.run timing = (.error (.refused error), after))
  /-- Nothing is selected, and there is no default pass. -/
  | idle {after : Site} (hcollect : site.collect = (.ok (), after))
      (hselected : after.manager.selected.isEmpty = true)
      (hdefault : after.manager.defaultPass = none)
      (hrun : site.run timing =
        (.ok false, (after.log .debug .execution "selection: done" (some timing.selection)).log
          .error .execution "no pass was selected" none))
  /-- The report is written. -/
  | dumped {ready : Site} (hdumps : site.Dumps timing ready)
      (hrun : site.run timing = ready.runDump)
  /-- No schedule can be built. -/
  | unplanned {ready : Site} {error : PassError} (hready : site.Ready timing ready)
      (hnotOwn : ready.manager.selected.contains ready.manager.own = false)
      (hplan : ready.plan = .error error)
      (hrun : site.run timing = (.error (.refused error), ready))
  /-- A schedule is executed. -/
  | executed {ready : Site} {schedule : List PassId}
      (hexecutes : site.Executes timing ready schedule)
      (hrun : site.run timing = ready.execute timing schedule)

theorem Ready.course {site ready : Site} {timing : Timing} (hready : site.Ready timing ready) :
    site.Course timing := by
  cases hown : ready.manager.selected.contains ready.manager.own with
  | true => exact .dumped ⟨hready, hown⟩ (Dumps.run_eq ⟨hready, hown⟩)
  | false =>
      cases hplan : ready.plan with
      | error error =>
          exact .unplanned hready hown hplan (hready.run_of_unplanned hown hplan)
      | ok schedule => exact .executed ⟨hready, hown, hplan⟩ (Executes.run_eq ⟨hready, hown, hplan⟩)

theorem run_of_uncollected {site after : Site} {error : PassError} (timing : Timing)
    (hcollect : site.collect = (.error error, after)) :
    site.run timing = (.error (.refused error), after) := by
  rw [run, hcollect]

theorem run_of_idle {site after : Site} (timing : Timing)
    (hcollect : site.collect = (.ok (), after))
    (hselected : after.manager.selected.isEmpty = true)
    (hdefault : after.manager.defaultPass = none) :
    site.run timing =
      (.ok false, (after.log .debug .execution "selection: done" (some timing.selection)).log
        .error .execution "no pass was selected" none) := by
  rw [run, hcollect]
  refine (if_pos (by simpa [log, record] using hselected)).trans ?_
  rw [runDefault]
  split
  · rfl
  · next id hid => exact absurd (hdefault.symm.trans hid) nofun

theorem course (site : Site) (timing : Timing) : site.Course timing := by
  rcases hcollect : site.collect with ⟨error | ⟨⟩, after⟩
  · exact .uncollected hcollect (run_of_uncollected timing hcollect)
  · cases hselected : after.manager.selected.isEmpty with
    | false => exact (Ready.chosen hcollect hselected).course
    | true =>
        cases hdefault : after.manager.defaultPass with
        | some id => exact (Ready.byDefault hcollect hselected hdefault).course
        | none =>
            exact .idle hcollect hselected hdefault
              (run_of_idle timing hcollect hselected hdefault)

/-! ## What a run has changed when it is ready -/

/-- Behind the collection only the selection and the trace can still change. -/
theorem Ready.beside {site ready : Site} {timing : Timing} (hready : site.Ready timing ready) :
    ∃ selected trace, ready =
      { manager := { site.collect.2.manager with selected },
        world := { site.collect.2.world with trace } } := by
  cases hready with
  | chosen hcollect hselected =>
      rw [hcollect]
      exact ⟨_, _, rfl⟩
  | byDefault hcollect hselected hdefault =>
      rw [hcollect]
      exact ⟨_, _, rfl⟩

/-- A run that is ready has changed the selection, the dependencies, which are as they
were collected, and the trace. -/
theorem Ready.frame {site ready : Site} {timing : Timing} (hready : site.Ready timing ready) :
    ∃ selected trace,
      ready =
        { manager := { site.manager with
            selected, dependencies := site.collect.2.manager.dependencies },
          world := { site.world with trace } } := by
  obtain ⟨selected, dependencies, trace, hcollect⟩ := site.collect_frame
  obtain ⟨chosen, observed, rfl⟩ := hready.beside
  rw [hcollect]
  exact ⟨_, _, rfl⟩

/-- The schedule is built from the dependencies as they were collected. -/
theorem Ready.graph_eq {site ready : Site} {timing : Timing} (hready : site.Ready timing ready) :
    ready.graph = site.collect.2.graph := by
  obtain ⟨selected, trace, rfl⟩ := hready.beside
  rfl

theorem Ready.stream_eq {site ready : Site} {timing : Timing} (hready : site.Ready timing ready) :
    ready.manager.stream = site.manager.stream := by
  obtain ⟨selected, trace, rfl⟩ := hready.frame
  rfl

theorem Ready.defaultResults_eq {site ready : Site} {timing : Timing}
    (hready : site.Ready timing ready) :
    ready.manager.defaultResults = site.manager.defaultResults := by
  obtain ⟨selected, trace, rfl⟩ := hready.frame
  rfl

/-! ## From slot to slot -/

/-- The execution of two parts of a schedule goes on with the second part if all slots of
the first part were skipped or completed. -/
theorem executeFrom_append (timing : Timing) (slot : Nat) (first second : List PassId)
    (site : Site) :
    executeFrom timing slot (first ++ second) site =
      match executeFrom timing slot first site with
      | (.ok true, after) => executeFrom timing (slot + first.length) second after
      | ended => ended := by
  induction first generalizing slot site with
  | nil => rfl
  | cons id rest ih =>
      rw [List.cons_append, executeFrom, executeFrom, List.length_cons]
      have hlength : slot + (rest.length + 1) = slot + 1 + rest.length := by omega
      rcases site.executeSlot timing slot id with ⟨outcome, after⟩
      cases outcome with
      | halted halt => rfl
      | failed => rfl
      | skipped => rw [hlength]; exact ih (slot + 1) after
      | completed => rw [hlength]; exact ih (slot + 1) after

/-- The execution that begins in `start` arrives at the slot, and finds `here` there. -/
structure Arrives (timing : Timing) (schedule : List PassId) (start : Site) (slot : Nat)
    (here : Site) : Prop where
  within : slot ≤ schedule.length
  run_eq : executeFrom timing 0 (schedule.take slot) start = (.ok true, here)

/-- The slot lets the execution go on. -/
def GoesOn (here : Site) (timing : Timing) (slot : Nat) (id : PassId) : Prop :=
  (here.executeSlot timing slot id).1 = .skipped ∨ (here.executeSlot timing slot id).1 = .completed

variable {timing : Timing} {schedule : List PassId} {start : Site}

theorem arrives_zero : Arrives timing schedule start 0 start := ⟨Nat.zero_le _, rfl⟩

theorem Arrives.unique {slot : Nat} {here other : Site}
    (hhere : Arrives timing schedule start slot here)
    (hother : Arrives timing schedule start slot other) : here = other :=
  (Prod.mk.inj (hhere.run_eq.symm.trans hother.run_eq)).2

theorem executeFrom_take_succ {slot : Nat} {id : PassId} (hid : schedule[slot]? = some id) :
    executeFrom timing 0 (schedule.take (slot + 1)) start =
      match executeFrom timing 0 (schedule.take slot) start with
      | (.ok true, here) => executeFrom timing slot [id] here
      | ended => ended := by
  obtain ⟨hslot, rfl⟩ := List.getElem?_eq_some_iff.mp hid
  have hlength : (schedule.take slot).length = slot :=
    List.length_take_of_le (Nat.le_of_lt hslot)
  rw [List.take_succ_eq_append_getElem hslot, executeFrom_append, hlength, Nat.zero_add]

/-- To arrive at the next slot is to arrive at a slot and to go on from there. -/
theorem arrives_succ_iff {slot : Nat} {after : Site} :
    Arrives timing schedule start (slot + 1) after ↔
      ∃ id here, schedule[slot]? = some id ∧ Arrives timing schedule start slot here ∧
        here.GoesOn timing slot id ∧ (here.executeSlot timing slot id).2 = after := by
  constructor
  · rintro ⟨hwithin, hrun⟩
    have hid : schedule[slot]? = some schedule[slot] := List.getElem?_eq_getElem hwithin
    -- An execution that ends among the slots before does not come to this one.
    rw [executeFrom_take_succ hid] at hrun
    rcases hfirst : executeFrom timing 0 (schedule.take slot) start with ⟨halt | ⟨_ | _⟩, here⟩ <;>
      rw [hfirst] at hrun
    · cases hrun
    · cases hrun
    · refine ⟨schedule[slot], here, hid, ⟨Nat.le_of_succ_le hwithin, hfirst⟩, ?_⟩
      rw [GoesOn]
      rcases hslot : here.executeSlot timing slot schedule[slot] with ⟨outcome, found⟩
      cases outcome <;> simp_all [executeFrom]
  · rintro ⟨id, here, hid, ⟨hwithin, hfirst⟩, hgoesOn, rfl⟩
    refine ⟨(List.getElem?_eq_some_iff.mp hid).1, ?_⟩
    rw [executeFrom_take_succ hid, hfirst]
    rw [GoesOn] at hgoesOn
    rcases hslot : here.executeSlot timing slot id with ⟨outcome, found⟩
    cases outcome <;> simp_all [executeFrom]

/-- An execution that arrives at a slot has arrived at each slot before it, and has gone on
from there. -/
theorem Arrives.earlier {slot : Nat} {here : Site}
    (harrives : Arrives timing schedule start slot here) {earlier : Nat} {id : PassId}
    (hearlier : earlier < slot) (hid : schedule[earlier]? = some id) :
    ∃ found, Arrives timing schedule start earlier found ∧ found.GoesOn timing earlier id := by
  induction slot generalizing here with
  | zero => exact absurd hearlier (Nat.not_lt_zero earlier)
  | succ slot ih =>
      obtain ⟨last, before, hlast, hbefore, hgoesOn, -⟩ := arrives_succ_iff.mp harrives
      rcases Nat.lt_succ_iff_lt_or_eq.mp hearlier with hlt | rfl
      · exact ih hbefore hlt
      · cases hlast.symm.trans hid
        exact ⟨before, hbefore, hgoesOn⟩

/-- How the execution that begins in `start` can end: after the last slot, or at a slot
at which it arrives and which fails or halts. -/
inductive Ends (timing : Timing) (schedule : List PassId) (start : Site) :
    Except Halt Bool × Site → Prop
  | finished {here : Site} (harrives : Arrives timing schedule start schedule.length here) :
      Ends timing schedule start (.ok true, here)
  | failed {slot : Nat} {here after : Site} {id : PassId}
      (harrives : Arrives timing schedule start slot here) (hid : schedule[slot]? = some id)
      (hslot : here.executeSlot timing slot id = (.failed, after)) :
      Ends timing schedule start (.ok false, after)
  | halted {slot : Nat} {here after : Site} {id : PassId} {halt : Halt}
      (harrives : Arrives timing schedule start slot here) (hid : schedule[slot]? = some id)
      (hslot : here.executeSlot timing slot id = (.halted halt, after)) :
      Ends timing schedule start (.error halt, after)

/-- The induction is on the slots that remain, with the arrival at their first one as the
invariant. -/
theorem Arrives.ends {slot : Nat} {here : Site} (harrives : Arrives timing schedule start slot here)
    {rest : List PassId} (hrest : schedule.drop slot = rest) :
    Ends timing schedule start (executeFrom timing slot rest here) := by
  induction rest generalizing slot here with
  | nil =>
      have hslot : slot = schedule.length :=
        Nat.le_antisymm harrives.within (List.drop_eq_nil_iff.mp hrest)
      rw [hslot] at harrives
      exact .finished harrives
  | cons id rest ih =>
      have hid : schedule[slot]? = some id := by
        rw [← List.head?_drop, hrest, List.head?_cons]
      have hnext : schedule.drop (slot + 1) = rest := by
        rw [← List.tail_drop, hrest, List.tail_cons]
      -- A slot that lets the execution go on arrives at the next one.
      have hgo : here.GoesOn timing slot id →
          Ends timing schedule start
            (executeFrom timing (slot + 1) rest (here.executeSlot timing slot id).2) :=
        fun hgoesOn => ih (arrives_succ_iff.mpr ⟨id, here, hid, harrives, hgoesOn, rfl⟩) hnext
      rw [executeFrom]
      rcases hslot : here.executeSlot timing slot id with ⟨outcome, after⟩
      rw [GoesOn, hslot] at hgo
      cases outcome with
      | halted halt => exact .halted harrives hid hslot
      | failed => exact .failed harrives hid hslot
      | skipped => exact hgo (Or.inl rfl)
      | completed => exact hgo (Or.inr rfl)

theorem ends (timing : Timing) (schedule : List PassId) (start : Site) :
    Ends timing schedule start (executeFrom timing 0 schedule start) :=
  arrives_zero.ends rfl

end PassPipeline.Site
