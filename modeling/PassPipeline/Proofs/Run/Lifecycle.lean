import Mathlib.Tactic.Common
import PassPipeline.Proofs.Run.Frame
import PassPipeline.Proofs.Run.Slots

/-!
# The lifecycle of a whole run

The calls and the flushes of a run follow a fixed pattern, whatever its passes do.  First
come the inquiries of the collection.  A run that executes nothing adds at most one flush,
after a report.  An execution adds a block for each slot before some last one, and then one
of four endings (`lifecycle_run`):

* *finished*: all slots are done, and there is one flush;
* *failed*: the last slot fails, and its pass is taken down before the flush;
* *missing*: the pass of the last slot has left the catalogue, and nothing is added;
* *panicked*: the pass of the last slot dies in its run, and nothing is added after that.
-/

namespace PassPipeline

/-! ## Collection -/

/-- An instance is made only to declare its usage. -/
def Descriptor.inquiry (pass : Descriptor) : List Event :=
  [pass.call pass.behaviour.inquiry, pass.call .usage]

namespace Site

/-- The inquiries of a collection from the listed passes, up to the first that is not in the
catalogue. -/
def inquiriesFrom (site : Site) (ids : List PassId) : List Event :=
  ((ids.takeWhile fun id => (site.world.catalog.find? id).isSome).filterMap
    site.world.catalog.find?).flatMap Descriptor.inquiry

/-- The inquiries of a collection. -/
def inquiries (site : Site) : List Event := site.inquiriesFrom site.manager.managed.toList

theorem lifecycle_asked (site : Site) (pass : Descriptor) (id : PassId) :
    (site.asked pass id).lifecycle = site.lifecycle ++ pass.inquiry := by
  have hnoted : (site.noteSelection pass id).2.lifecycle = site.lifecycle := by
    unfold noteSelection
    split
    · dsimp only
      split <;> simp
    · rfl
  simp [asked, noteUsage, hnoted, Descriptor.inquiry]

theorem Collects.lifecycle {ids : List PassId} {site : Site}
    {result : Except PassError Unit × Site} (hcollects : Collects ids site result) :
    result.2.lifecycle = site.lifecycle ++ site.inquiriesFrom ids := by
  induction hcollects with
  | done => exact (List.append_nil _).symm
  | unknown hfind => simp [inquiriesFrom, hfind]
  | @asked site id rest pass result hfind hunmet _ ih =>
      -- The catalogue stays as it is, so the other passes are asked as they would have been.
      have hlater : (site.asked pass id).inquiriesFrom rest = site.inquiriesFrom rest := by
        rw [inquiriesFrom, catalog_asked hunmet, inquiriesFrom]
      have hinquiries : site.inquiriesFrom (id :: rest) =
          pass.inquiry ++ site.inquiriesFrom rest := by
        simp [inquiriesFrom, hfind]
      rw [ih, lifecycle_asked, hlater, hinquiries, List.append_assoc]

theorem lifecycle_collect (site : Site) :
    site.collect.2.lifecycle = site.lifecycle ++ site.inquiries :=
  site.collects_collect.lifecycle

theorem Ready.lifecycle {site ready : Site} {timing : Timing}
    (hready : site.Ready timing ready) : ready.lifecycle = site.lifecycle ++ site.inquiries := by
  have hcollect := site.lifecycle_collect
  cases hready with
  | chosen heq _ =>
      rw [heq] at hcollect
      rw [lifecycle_log, hcollect]
  | byDefault heq _ _ =>
      rw [heq] at hcollect
      rw [lifecycle_update, lifecycle_log, hcollect]

/-! ## Runs without an execution -/

/-- A report is written to the stream of the manager, which is no matter of the world. -/
theorem lifecycle_dump (site : Site) : site.dump.2.lifecycle = site.lifecycle := by
  obtain ⟨stream, hdump⟩ := site.dump_frame
  rw [hdump, lifecycle_update]

/-- A report is followed by a flush if it is complete. -/
theorem runDump_outcome (site : Site) :
    site.runDump.2.manager.stream = site.dump.2.manager.stream ∧
    ((site.dump.1 = .ok () ∧ site.runDump.1 = .ok true ∧
        site.runDump.2.lifecycle = site.lifecycle ++ [.flush]) ∨
      ∃ halt, site.dump.1 = .error halt ∧ site.runDump.1 = .error halt ∧
        site.runDump.2.lifecycle = site.lifecycle) := by
  obtain ⟨text, hrun⟩ := site.runDump_eq
  have hdumped := site.lifecycle_dump
  rw [hrun]
  rcases hdump : site.dump with ⟨halt | ⟨⟩, after⟩ <;> rw [hdump] at hdumped
  · refine ⟨rfl, Or.inr ⟨halt, rfl, rfl, ?_⟩⟩
    rw [lifecycle_log, hdumped]
  · refine ⟨rfl, Or.inl ⟨rfl, rfl, ?_⟩⟩
    rw [lifecycle_flush, lifecycle_log, hdumped]

theorem runDump_cases (site : Site) :
    (site.runDump.1 = .ok true ∧ site.runDump.2.lifecycle = site.lifecycle ++ [.flush]) ∨
      ((∃ halt, site.runDump.1 = .error halt) ∧ site.runDump.2.lifecycle = site.lifecycle) := by
  rcases site.runDump_outcome.2 with ⟨-, hok, hlifecycle⟩ | ⟨halt, -, herror, hlifecycle⟩
  · exact Or.inl ⟨hok, hlifecycle⟩
  · exact Or.inr ⟨⟨halt, herror⟩, hlifecycle⟩

/-! ## Executions -/

variable {timing : Timing} {schedule : List PassId} {start : Site}

/-- The blocks are the lifecycles of the slots before `last`: a leading slot that has a
value has nothing, and every other slot is completed. -/
structure Blocks (timing : Timing) (schedule : List PassId) (start : Site) (values : Results)
    (last : Nat) (blocks : List (List Event)) : Prop where
  length_eq : blocks.length = last
  block_eq : ∀ slot < last, ∃ id found pass, schedule[slot]? = some id ∧
    Arrives timing schedule start slot found ∧ found.world.catalog.find? id = some pass ∧
    blocks[slot]? = some (if slot = 0 ∧ values.contains id = true then [] else pass.block)

theorem Blocks.snoc {values : Results} {last : Nat} {blocks : List (List Event)}
    (hblocks : Blocks timing schedule start values last blocks) {id : PassId} {found : Site}
    {pass : Descriptor} (hid : schedule[last]? = some id)
    (hfound : Arrives timing schedule start last found)
    (hfind : found.world.catalog.find? id = some pass) :
    Blocks timing schedule start values (last + 1)
      (blocks ++ [if last = 0 ∧ values.contains id = true then [] else pass.block]) := by
  have hlength := hblocks.length_eq
  constructor
  · rw [List.length_append, hlength, List.length_singleton]
  · intro slot hslot
    by_cases hlast : slot = last
    · subst hlast
      refine ⟨id, found, pass, hid, hfound, hfind, ?_⟩
      rw [List.getElem?_append_right (by omega), hlength, Nat.sub_self]
      rfl
    · rw [List.getElem?_append_left (by omega)]
      exact hblocks.block_eq slot (by omega)

/-- What a slot adds that lets the execution go on. -/
theorem Arrives.lifecycle_goesOn {slot : Nat} {here : Site} {id : PassId}
    (harrives : Arrives timing schedule start slot here) (hgoesOn : here.GoesOn timing slot id) :
    ∃ pass, here.world.catalog.find? id = some pass ∧
      (here.executeSlot timing slot id).2.lifecycle = here.lifecycle ++
        if slot = 0 ∧ start.manager.results.contains id = true then [] else pass.block := by
  rcases hgoesOn.cases with ⟨pass, hcompletes⟩ | hskips
  · refine ⟨pass, hcompletes.resolved, ?_⟩
    rw [if_neg (mt harrives.satisfied_iff.mpr hcompletes.unsatisfied), hcompletes.lifecycle]
  · obtain ⟨pass, hfind⟩ := hskips.resolved
    refine ⟨pass, hfind, ?_⟩
    rw [if_pos (harrives.satisfied_iff.mp hskips.satisfied), hskips.lifecycle, List.append_nil]

/-- The induction is on the slots at which the execution has arrived, each of which adds its
block. -/
theorem Arrives.blocks {last : Nat} {here : Site}
    (harrives : Arrives timing schedule start last here) :
    ∃ blocks, Blocks timing schedule start start.manager.results last blocks ∧
      here.lifecycle = start.lifecycle ++ blocks.flatten := by
  induction last generalizing here with
  | zero =>
      rw [harrives.unique arrives_zero]
      exact ⟨[], ⟨rfl, fun slot hslot => absurd hslot (Nat.not_lt_zero slot)⟩,
        (List.append_nil _).symm⟩
  | succ last ih =>
      obtain ⟨id, before, hid, hbefore, hgoesOn, rfl⟩ := arrives_succ_iff.mp harrives
      obtain ⟨blocks, hblocks, hlifecycle⟩ := ih hbefore
      obtain ⟨pass, hfind, hslot⟩ := hbefore.lifecycle_goesOn hgoesOn
      refine ⟨_, hblocks.snoc hid hbefore hfind, ?_⟩
      rw [hslot, hlifecycle, List.flatten_append, List.flatten_singleton, List.append_assoc]

/-- How an execution that arrives at its last slot can end, with its result and what it adds
to the lifecycle. -/
inductive Ending (here : Site) (schedule : List PassId) (last : Nat) :
    Except Halt Bool → List Event → Prop
  | finished (hlast : last = schedule.length) :
      Ending here schedule last (.ok true) [.flush]
  | failed {id : PassId} {pass : Descriptor} {report : Report}
      (hid : schedule[last]? = some id) (hfind : here.world.catalog.find? id = some pass)
      (hsatisfied : ¬ here.Satisfied last id) (hreported : here.reported pass = some report)
      (hfailed : (report.succeeded && report.verified) = false) :
      Ending here schedule last (.ok false) (pass.failing report)
  | missing {id : PassId} (hid : schedule[last]? = some id)
      (hfind : here.world.catalog.find? id = none) :
      Ending here schedule last (.error (.refused (.unknownPass id))) []
  | panicked {id : PassId} {pass : Descriptor} (hid : schedule[last]? = some id)
      (hfind : here.world.catalog.find? id = some pass)
      (hsatisfied : ¬ here.Satisfied last id) (hreported : here.reported pass = none) :
      Ending here schedule last (.error .panicked) pass.opening

/-- The lifecycle of an execution consists of the blocks of the slots before a last one and
of one ending. -/
theorem lifecycle_execute (ready : Site) (timing : Timing) (schedule : List PassId) :
    ∃ last here blocks ending,
      Arrives timing schedule (ready.commit timing schedule) last here ∧
      Blocks timing schedule (ready.commit timing schedule) ready.manager.defaultResults last
        blocks ∧
      here.Ending schedule last (ready.execute timing schedule).1 ending ∧
      (ready.execute timing schedule).2.lifecycle =
        ready.lifecycle ++ blocks.flatten ++ ending := by
  have hcommit : (ready.commit timing schedule).lifecycle = ready.lifecycle :=
    ready.lifecycle_log ..
  have hends := ends timing schedule (ready.commit timing schedule)
  rw [execute]
  generalize executeFrom timing 0 schedule (ready.commit timing schedule) = result at hends
  cases hends with
  | @finished here harrives =>
      obtain ⟨blocks, hblocks, hlifecycle⟩ := harrives.blocks
      refine ⟨_, here, blocks, _, harrives, hblocks, .finished rfl, ?_⟩
      rw [lifecycle_flush, lifecycle_log, hlifecycle, hcommit]
  | @failed last here after id harrives hid hslot =>
      obtain ⟨blocks, hblocks, hlifecycle⟩ := harrives.blocks
      obtain ⟨events, hcourse, hadded⟩ := here.slotCourse timing last id
      rw [hslot] at hcourse hadded
      cases hcourse with
      | failed hfind hsatisfied hreported hfailed =>
          refine ⟨last, here, blocks, _, harrives, hblocks,
            .failed hid hfind hsatisfied hreported hfailed, ?_⟩
          rw [hadded, hlifecycle, hcommit]
  | @halted last here after id halt harrives hid hslot =>
      obtain ⟨blocks, hblocks, hlifecycle⟩ := harrives.blocks
      obtain ⟨events, hcourse, hadded⟩ := here.slotCourse timing last id
      rw [hslot] at hcourse hadded
      cases hcourse with
      | missing hfind =>
          refine ⟨last, here, blocks, _, harrives, hblocks, .missing hid hfind, ?_⟩
          rw [hadded, hlifecycle, hcommit]
      | panicked hfind hsatisfied hreported =>
          refine ⟨last, here, blocks, _, harrives, hblocks,
            .panicked hid hfind hsatisfied hreported, ?_⟩
          rw [hadded, hlifecycle, hcommit]

/-! ## Runs -/

/-- The lifecycle of a run begins with the inquiries of the collection.  A run that executes
nothing adds a flush if it writes the report, and nothing otherwise.  A run that executes a
schedule adds blocks, in which nothing but a leading slot with a default value is missing,
and one ending. -/
theorem lifecycle_run (site : Site) (timing : Timing) :
    ((∀ ready schedule, ¬ site.Executes timing ready schedule) →
      ((∃ ready, site.Dumps timing ready) ∧ (site.run timing).1 = .ok true ∧
        (site.run timing).2.lifecycle = site.lifecycle ++ site.inquiries ++ [.flush]) ∨
      ((site.run timing).1 ≠ .ok true ∧
        (site.run timing).2.lifecycle = site.lifecycle ++ site.inquiries)) ∧
    ∀ ready schedule, site.Executes timing ready schedule →
      ∃ last here blocks ending,
        Arrives timing schedule (ready.commit timing schedule) last here ∧
        Blocks timing schedule (ready.commit timing schedule) site.manager.defaultResults last
          blocks ∧
        here.Ending schedule last (site.run timing).1 ending ∧
        (site.run timing).2.lifecycle =
          site.lifecycle ++ site.inquiries ++ blocks.flatten ++ ending := by
  constructor
  · intro hidle
    cases site.course timing with
    | @uncollected error after hcollect hrun =>
        have hlifecycle := site.lifecycle_collect
        rw [hcollect] at hlifecycle
        rw [hrun]
        exact Or.inr ⟨nofun, hlifecycle⟩
    | idle hcollect _ _ hrun =>
        have hlifecycle := site.lifecycle_collect
        rw [hcollect] at hlifecycle
        rw [hrun, lifecycle_log, lifecycle_log]
        exact Or.inr ⟨nofun, hlifecycle⟩
    | @dumped ready hdumps hrun =>
        rw [hrun, ← hdumps.isReady.lifecycle]
        rcases ready.runDump_cases with ⟨hok, hlifecycle⟩ | ⟨⟨halt, herror⟩, hlifecycle⟩
        · exact Or.inl ⟨⟨ready, hdumps⟩, hok, hlifecycle⟩
        · rw [herror]
          exact Or.inr ⟨nofun, hlifecycle⟩
    | unplanned hready _ _ hrun =>
        rw [hrun]
        exact Or.inr ⟨nofun, hready.lifecycle⟩
    | executed hexecutes _ => exact absurd hexecutes (hidle _ _)
  · intro ready schedule hexecutes
    rw [hexecutes.run_eq, ← hexecutes.isReady.lifecycle,
      ← hexecutes.isReady.defaultResults_eq]
    exact ready.lifecycle_execute timing schedule

/-- Pass `1` is selected and requires `2`, which takes `1` out of the catalogue. -/
def usurped : Site where
  manager := {
    own := ⟨0⟩
    managed := (∅ : IdSet).insert ⟨1⟩ |>.insert ⟨2⟩ }
  world := {
    catalog := {
      admission := .free
      entries := (∅ : IdMap Descriptor)
        |>.insert ⟨1⟩ {
          name := "Heir", arg := "heir", id := ⟨1⟩, selected := true
          behaviour := {
            declarations := [.require ⟨2⟩], run := .done { succeeded := true } } }
        |>.insert ⟨2⟩ {
          name := "Usurper", arg := "usurper", id := ⟨2⟩
          behaviour := {
            run := .perform (.withdraw ⟨1⟩) fun _ => .done { succeeded := true } } } } }

theorem executes_usurped :
    usurped.Executes {} (usurped.collect.2.log .debug .execution "selection: done" (some 0))
      [⟨2⟩, ⟨1⟩] where
  isReady := .chosen (Prod.ext rfl rfl) (by decide)
  notOwn := by decide
  planned := by decide +kernel

theorem lifecycle_run_withdrawn :
    (usurped.run {}).1 = .error (.refused (.unknownPass ⟨1⟩)) ∧
    ∃ blocks : List (List Event), blocks.length = 1 ∧
      (usurped.run {}).2.lifecycle = usurped.inquiries ++ blocks.flatten := by
  have hresult : (usurped.run {}).1 = .error (.refused (.unknownPass ⟨1⟩)) := by
    rw [executes_usurped.run_eq]
    rfl
  obtain ⟨last, here, blocks, ending, -, hblocks, hending, hlifecycle⟩ :=
    (lifecycle_run usurped {}).2 _ _ executes_usurped
  rw [hresult] at hending
  refine ⟨hresult, blocks, ?_, ?_⟩
  · cases hending with
    | missing hid _ =>
        match last with
        | 0 => cases hid
        | 1 => exact hblocks.length_eq
        | _ + 2 => cases hid
  · cases hending with
    | missing _ _ => rw [hlifecycle, List.append_nil]; rfl

end Site

end PassPipeline
