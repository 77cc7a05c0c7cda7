import PassPipeline.Proofs.Run.Lifecycle
import PassPipeline.Proofs.Schedule.Order

/-!
# Prerequisites have run

Whatever the passes of a run do to the catalogue and to each other, the run of a pass is
called only after everything that it leads to has been dealt with: a slot before was
completed, with its run and its check successful, or it was the leading slot and the default
results hold a value (`prerequisites_done`).  This is so at every slot of a pass that is
scheduled more than once.

The lifecycle of the run is divided into rounds, one for each slot, and a call is looked for
in the round in which it was made.  The schedule puts prerequisites before
(`Executes.ordered`), an execution arrives at a slot only if it went on from every slot before
(`Arrives.earlier`), and it goes on only from slots that are skipped or completed
(`GoesOn.cases`).
-/

namespace PassPipeline.Site

open Relation

variable {site ready start : Site} {timing : Timing} {schedule : List PassId}

/-- The execution that begins in `start` finds `here` at the slot, and calls the run of the
pass. -/
structure Invokes (timing : Timing) (schedule : List PassId) (start : Site) (slot : Nat)
    (id : PassId) (here : Site) : Prop where
  arrives : Arrives timing schedule start slot here
  scheduled : schedule[slot]? = some id
  called : ∃ pass events, here.world.catalog.find? id = some pass ∧
    (here.executeSlot timing slot id).2.lifecycle = here.lifecycle ++ events ∧
    pass.call .run ∈ events

/-- A run is called at a slot if its pass is in the catalogue and the slot is not skipped. -/
theorem invokes_iff {slot : Nat} {id : PassId} {here : Site} :
    Invokes timing schedule start slot id here ↔
      Arrives timing schedule start slot here ∧ schedule[slot]? = some id ∧
        (∃ pass, here.world.catalog.find? id = some pass) ∧ ¬ here.Satisfied slot id := by
  obtain ⟨observed, hcourse, hobserved⟩ := here.slotCourse timing slot id
  constructor
  · rintro ⟨harrives, hid, pass, events, hfind, hevents, hcall⟩
    obtain rfl : observed = events := List.append_cancel_left (hobserved.symm.trans hevents)
    refine ⟨harrives, hid, ⟨pass, hfind⟩, fun hsatisfied => ?_⟩
    -- A skipped slot is the only course of a known pass on which nothing is called.
    generalize (here.executeSlot timing slot id).1 = outcome at hcourse
    cases hcourse with
    | missing hnone => cases hfind.symm.trans hnone
    | skipped _ _ => cases hcall
    | panicked _ hunsatisfied _ => exact hunsatisfied hsatisfied
    | failed _ hunsatisfied _ _ => exact hunsatisfied hsatisfied
    | completed _ hunsatisfied _ _ _ => exact hunsatisfied hsatisfied
  · rintro ⟨harrives, hid, ⟨pass, hfind⟩, hunsatisfied⟩
    refine ⟨harrives, hid, pass, observed, hfind, hobserved, ?_⟩
    have hopening : pass.call .run ∈ pass.opening := by simp [Descriptor.opening]
    generalize (here.executeSlot timing slot id).1 = outcome at hcourse
    cases hcourse with
    | missing hnone => cases hfind.symm.trans hnone
    | skipped _ hsatisfied => exact absurd hsatisfied hunsatisfied
    | panicked hfound _ _ =>
        cases hfind.symm.trans hfound
        exact hopening
    | failed hfound _ _ _ =>
        cases hfind.symm.trans hfound
        exact List.mem_append_left _ (List.mem_append_left _ hopening)
    | completed hfound _ _ _ _ =>
        cases hfind.symm.trans hfound
        exact List.mem_append_left _ hopening

theorem Executes.ordered (hexecutes : site.Executes timing ready schedule) :
    site.collect.2.graph.Ordered schedule := by
  rw [← hexecutes.isReady.graph_eq]
  exact Schedule.Graph.ordered_build hexecutes.planned

/-! ## The rounds of a run -/

theorem eq_of_run_mem_opening {pass : Descriptor} {self : PassId} {name : String}
    (hcall : .call self name .run ∈ pass.opening) :
    Event.call self name .run = pass.call .run := by
  simpa [Descriptor.opening, Descriptor.call] using hcall

theorem eq_of_run_mem_block {pass : Descriptor} {self : PassId} {name : String}
    (hcall : .call self name .run ∈ pass.block) :
    Event.call self name .run = pass.call .run := by
  simpa [Descriptor.block, Descriptor.opening, Descriptor.call] using hcall

theorem eq_of_run_mem_failing {pass : Descriptor} {report : Report} {self : PassId}
    {name : String} (hcall : .call self name .run ∈ pass.failing report) :
    Event.call self name .run = pass.call .run := by
  rw [Descriptor.failing, List.append_assoc, List.mem_append] at hcall
  rcases hcall with hopening | hclosing
  · exact eq_of_run_mem_opening hopening
  · cases report.succeeded <;> simp [Descriptor.call] at hclosing

/-- The round of a slot before the last one shows a run only if the execution calls it. -/
theorem Blocks.invokes {last slot : Nat} {blocks : List (List Event)}
    (hblocks : Blocks timing schedule start start.manager.results last blocks)
    {round : List Event} (hslot : slot < last) (hround : blocks[slot]? = some round)
    {self : PassId} {name : String} (hcall : .call self name .run ∈ round) :
    ∃ id here pass, Invokes timing schedule start slot id here ∧
      here.world.catalog.find? id = some pass ∧ .call self name .run = pass.call .run := by
  obtain ⟨id, here, pass, hid, harrives, hfind, hblock⟩ := hblocks.block_eq slot hslot
  obtain rfl := Option.some.inj (hround.symm.trans hblock)
  by_cases hskipped : slot = 0 ∧ start.manager.results.contains id = true
  · rw [if_pos hskipped] at hcall
    cases hcall
  · rw [if_neg hskipped] at hcall
    exact ⟨id, here, pass,
      invokes_iff.mpr ⟨harrives, hid, ⟨pass, hfind⟩, mt harrives.satisfied_iff.mp hskipped⟩,
      hfind, eq_of_run_mem_block hcall⟩

/-- The last round shows a run only if the execution fails or dies in it. -/
theorem Ending.invokes {here : Site} {last : Nat} {result : Except Halt Bool}
    {round : List Event} (hending : here.Ending schedule last result round)
    (harrives : Arrives timing schedule start last here)
    {self : PassId} {name : String} (hcall : .call self name .run ∈ round) :
    ∃ id pass, Invokes timing schedule start last id here ∧
      here.world.catalog.find? id = some pass ∧ .call self name .run = pass.call .run := by
  cases hending with
  | finished _ => simp at hcall
  | missing _ _ => cases hcall
  | failed hid hfind hsatisfied _ _ =>
      exact ⟨_, _, invokes_iff.mpr ⟨harrives, hid, ⟨_, hfind⟩, hsatisfied⟩, hfind,
        eq_of_run_mem_failing hcall⟩
  | panicked hid hfind hsatisfied _ =>
      exact ⟨_, _, invokes_iff.mpr ⟨harrives, hid, ⟨_, hfind⟩, hsatisfied⟩, hfind,
        eq_of_run_mem_opening hcall⟩

/-- By its rounds, a run has dealt with the pass before it comes to that slot: it has
completed a slot of it, or it has skipped the leading slot because of a default value. -/
inductive DealtWith (timing : Timing) (schedule : List PassId) (start : Site) (values : Results)
    (rounds : List (List Event)) (slot : Nat) (id : PassId) : Prop
  | completed {earlier : Nat} {found : Site} {pass : Descriptor} (hearlier : earlier < slot)
      (hid : schedule[earlier]? = some id) (hround : rounds[earlier]? = some pass.block)
      (hfound : Arrives timing schedule start earlier found)
      (hcompletes : found.Completes timing earlier id pass) :
      DealtWith timing schedule start values rounds slot id
  | skipped (hleading : 0 < slot) (hid : schedule[0]? = some id)
      (hround : rounds[0]? = some []) (hskips : start.Skips timing 0 id)
      (hvalue : values.contains id = true) :
      DealtWith timing schedule start values rounds slot id

/-- The rounds show what became of the slots before the last one. -/
theorem Blocks.dealtWith {last slot earlier : Nat} {here : Site} {blocks : List (List Event)}
    {ending : List Event} {id : PassId}
    (hblocks : Blocks timing schedule start start.manager.results last blocks)
    (harrives : Arrives timing schedule start last here) (hslot : slot ≤ last)
    (hearlier : earlier < slot) (hid : schedule[earlier]? = some id) :
    DealtWith timing schedule start start.manager.results (blocks ++ [ending]) slot id := by
  have hwithin : earlier < last := by omega
  obtain ⟨other, found, pass, hother, hfound, hfind, hblock⟩ := hblocks.block_eq earlier hwithin
  obtain rfl : id = other := Option.some.inj (hid.symm.trans hother)
  have hround : (blocks ++ [ending])[earlier]? = blocks[earlier]? :=
    List.getElem?_append_left (by rw [hblocks.length_eq]; exact hwithin)
  obtain ⟨again, hagain, hgoesOn⟩ := harrives.earlier hwithin hid
  obtain rfl := hfound.unique hagain
  rcases hgoesOn.cases with ⟨completed, hcompletes⟩ | hskips
  · obtain rfl := Option.some.inj (hfind.symm.trans hcompletes.resolved)
    rw [if_neg (mt hfound.satisfied_iff.mpr hcompletes.unsatisfied)] at hblock
    exact .completed hearlier hid (hround.trans hblock) hfound hcompletes
  · have hsatisfied := hfound.satisfied_iff.mp hskips.satisfied
    rw [if_pos hsatisfied] at hblock
    obtain ⟨rfl, hvalue⟩ := hsatisfied
    obtain rfl := hfound.unique arrives_zero
    exact .skipped hearlier hid (hround.trans hblock) hskips hvalue

/-- The calls of a run that executes a schedule come in rounds, slot by slot.  Where the run
of a pass is called, every pass that it leads to, by the dependencies that this run has
collected, has been dealt with in an earlier round. -/
theorem prerequisites_done (hexecutes : site.Executes timing ready schedule) :
    (site.run timing).2.manager.schedule = schedule ∧
    ∃ rounds : List (List Event),
      (site.run timing).2.lifecycle = site.lifecycle ++ site.inquiries ++ rounds.flatten ∧
      ∀ slot round, rounds[slot]? = some round → ∀ self name, .call self name .run ∈ round →
        ∃ id here pass, Invokes timing schedule (ready.commit timing schedule) slot id here ∧
          here.world.catalog.find? id = some pass ∧ .call self name .run = pass.call .run ∧
          ∀ prerequisite, TransGen site.collect.2.graph.Leads id prerequisite →
            DealtWith timing schedule (ready.commit timing schedule)
              site.manager.defaultResults rounds slot prerequisite := by
  have hresults : (ready.commit timing schedule).manager.results = site.manager.defaultResults :=
    hexecutes.isReady.defaultResults_eq
  obtain ⟨last, here, blocks, ending, harrives, hblocks, hending, hlifecycle⟩ :=
    ready.lifecycle_execute timing schedule
  rw [← hexecutes.run_eq] at hending hlifecycle
  rw [hexecutes.isReady.lifecycle] at hlifecycle
  have hlength := hblocks.length_eq
  refine ⟨hexecutes.schedule_eq, blocks ++ [ending], ?_, ?_⟩
  · rw [hlifecycle, List.flatten_append, List.flatten_singleton, List.append_assoc,
      List.append_assoc]
  intro slot round hround self name hcall
  -- A round is that of a slot that let the execution go on, or it is the last one.
  obtain ⟨hslot, id, found, pass, hinvokes, hfind, hpass⟩ :
      slot ≤ last ∧ ∃ id found pass,
        Invokes timing schedule (ready.commit timing schedule) slot id found ∧
        found.world.catalog.find? id = some pass ∧
        Event.call self name .run = pass.call .run := by
    by_cases hbefore : slot < last
    · rw [List.getElem?_append_left (by omega)] at hround
      exact ⟨Nat.le_of_lt hbefore, hblocks.invokes hbefore hround hcall⟩
    · rw [List.getElem?_append_right (by omega)] at hround
      obtain ⟨hsingle, rfl⟩ := List.getElem?_eq_some_iff.mp hround
      rw [List.length_singleton] at hsingle
      obtain rfl : slot = last := by omega
      rw [List.getElem_singleton] at hcall
      obtain ⟨id, pass, hinvoked⟩ := hending.invokes harrives hcall
      exact ⟨Nat.le_refl slot, id, here, pass, hinvoked⟩
  refine ⟨id, found, pass, hinvokes, hfind, hpass, fun prerequisite hleads => ?_⟩
  obtain ⟨earlier, hearlier, hprerequisite⟩ :=
    hexecutes.ordered.below_earlier hinvokes.scheduled hleads
  rw [← hresults]
  exact hblocks.dealtWith harrives hslot hearlier hprerequisite

/-- The pass `1` of `relay`. -/
def relayReport : Descriptor where
  name := "Report"
  arg := "report"
  id := ⟨1⟩
  selected := true
  behaviour := { declarations := [.require ⟨2⟩], run := .done { succeeded := true } }

/-- Pass `1` is selected and requires `2`, and `3` provides `2`.  The default results hold a
value for `3`. -/
def relay : Site where
  manager := {
    own := ⟨0⟩
    managed := (∅ : IdSet).insert ⟨0⟩ |>.insert ⟨1⟩ |>.insert ⟨2⟩ |>.insert ⟨3⟩
    defaultResults := (∅ : Results).insert ⟨3⟩ .unit }
  world := {
    catalog := {
      entries := (∅ : IdMap Descriptor)
        |>.insert ⟨0⟩ { Manager.registration with id := ⟨0⟩ }
        |>.insert ⟨1⟩ relayReport
        |>.insert ⟨2⟩ {
          name := "Count", arg := "count", id := ⟨2⟩
          behaviour := { run := .done { succeeded := true } } }
        |>.insert ⟨3⟩ {
          name := "Read", arg := "read", id := ⟨3⟩
          behaviour := {
            declarations := [.provide ⟨2⟩], run := .done { succeeded := true } } } } }

/-- The run of `relay` when it is ready. -/
def relayReady : Site := relay.collect.2.log .debug .execution "selection: done" (some 0)

theorem executes_relay : relay.Executes {} relayReady [⟨3⟩, ⟨2⟩, ⟨1⟩] where
  isReady := .chosen (Prod.ext (by decide) rfl) (by decide)
  notOwn := by decide
  planned := by decide +kernel

theorem arrives_relay :
    Arrives {} [⟨3⟩, ⟨2⟩, ⟨1⟩] (relayReady.commit {} [⟨3⟩, ⟨2⟩, ⟨1⟩]) 1
      (executeFrom {} 0 [⟨3⟩] (relayReady.commit {} [⟨3⟩, ⟨2⟩, ⟨1⟩])).2 :=
  ⟨by decide, Prod.ext (by decide) rfl⟩

theorem leads_relay : TransGen relay.collect.2.graph.Leads ⟨1⟩ ⟨3⟩ := by
  have hrequires : relay.collect.2.graph.Leads ⟨1⟩ ⟨2⟩ := by
    rw [Schedule.Graph.Leads]
    decide
  have hprovides : relay.collect.2.graph.Leads ⟨2⟩ ⟨3⟩ := by
    rw [Schedule.Graph.Leads]
    decide
  exact (TransGen.single hrequires).tail hprovides

theorem run_mem_relay :
    relayReport.call .run ∈ (relay.run {}).2.lifecycle ∧
      relayReport.call .run ∉ relay.lifecycle ++ relay.inquiries := by
  rw [executes_relay.run_eq]
  exact ⟨by decide +kernel, by decide +kernel⟩

/-- The leading slot of `relay` is that of pass `3`, which has a default value. -/
theorem invokes_relay {slot : Nat} {id : PassId} {here : Site} {pass : Descriptor}
    (hinvokes : Invokes {} [⟨3⟩, ⟨2⟩, ⟨1⟩] (relayReady.commit {} [⟨3⟩, ⟨2⟩, ⟨1⟩]) slot id here)
    (hfind : here.world.catalog.find? id = some pass)
    (hcall : relayReport.call .run = pass.call .run) : slot = 2 ∧ id = ⟨1⟩ := by
  have hscheduled := hinvokes.scheduled
  match slot with
  | 0 =>
      cases hscheduled
      exact absurd (hinvokes.arrives.satisfied_iff.mpr ⟨rfl, by decide⟩)
        (invokes_iff.mp hinvokes).2.2.2
  | 1 =>
      cases hscheduled
      obtain rfl := hinvokes.arrives.unique arrives_relay
      cases hfind
      exact absurd hcall (by decide)
  | 2 =>
      cases hscheduled
      exact ⟨rfl, rfl⟩
  | _ + 3 => cases hscheduled

theorem prerequisites_done_relay :
    relay.Executes {} relayReady [⟨3⟩, ⟨2⟩, ⟨1⟩] ∧
    (relay.run {}).2.manager.schedule = [⟨3⟩, ⟨2⟩, ⟨1⟩] ∧
    ∃ rounds round,
      (relay.run {}).2.lifecycle = relay.lifecycle ++ relay.inquiries ++ List.flatten rounds ∧
      rounds[2]? = some round ∧ relayReport.call .run ∈ round ∧
      rounds[0]? = some [] ∧ relay.manager.defaultResults.contains ⟨3⟩ = true := by
  obtain ⟨hschedule, rounds, hlifecycle, hrounds⟩ := prerequisites_done executes_relay
  obtain ⟨hmem, hnew⟩ := run_mem_relay
  rw [hlifecycle] at hmem
  obtain ⟨round, hround, hcall⟩ :=
    List.mem_flatten.mp ((List.mem_append.mp hmem).resolve_left hnew)
  obtain ⟨slot, hslot⟩ := List.getElem?_of_mem hround
  obtain ⟨id, here, pass, hinvokes, hfind, hpass, hdealtWith⟩ := hrounds slot round hslot _ _ hcall
  obtain ⟨rfl, rfl⟩ := invokes_relay hinvokes hfind hpass
  refine ⟨executes_relay, hschedule, rounds, round, hlifecycle, hslot, hcall, ?_⟩
  cases hdealtWith ⟨3⟩ leads_relay with
  | skipped _ _ hleading _ hvalue => exact ⟨hleading, hvalue⟩
  | @completed earlier found _ hearlier hid _ hfound hcompletes =>
      obtain rfl | rfl : earlier = 0 ∨ earlier = 1 := by omega
      · exact absurd (hfound.satisfied_iff.mpr ⟨rfl, by decide⟩) hcompletes.unsatisfied
      · cases hid

end PassPipeline.Site
