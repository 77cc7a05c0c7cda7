import PassPipeline.Proofs.History.Rewording
import PassPipeline.Proofs.Run.Stopping

/-!
# Runs do not depend on the past

A manager may have collected, planned, executed and counted anything before: its next run
does what it would have done otherwise (`run_independent`).

The argument is a simulation.  Two runs begin in managers that differ in their selection,
dependencies, schedule, results, counters and trace, and from there on go in step.  What they
have in common is `Mirror`, and there are two points at which it gains something:

* the collection forgets the old selection and the old dependencies, and from then on they are
  the same on both sides (`Alike.mirror`);
* the execution replaces the schedule and the results, which until then are not read
  (`Mirror.commit`).

Counters are only added to, so what they have in common is what has been added
(`Metrics.GrowAlike`).
-/

namespace PassPipeline

/-! ## Counters -/

namespace Metrics

/-- The same number has been added on both sides. -/
def Added (first second here there : UInt64) : Prop :=
  ∃ count : Nat, here = first + UInt64.ofNat count ∧ there = second + UInt64.ofNat count

theorem added_zero (first second : UInt64) : Added first second first second :=
  ⟨0, (UInt64.add_zero first).symm, (UInt64.add_zero second).symm⟩

theorem Added.succ {first second here there : UInt64} (hadded : Added first second here there) :
    Added first second (here + 1) (there + 1) := by
  obtain ⟨count, rfl, rfl⟩ := hadded
  refine ⟨count + 1, ?_, ?_⟩
  · rw [UInt64.ofNat_add, UInt64.add_assoc]
    rfl
  · rw [UInt64.ofNat_add, UInt64.add_assoc]
    rfl

/-- The counters of runs and slots have grown by the same amounts, for each name. -/
structure GrowAlike (first second here there : Metrics) : Prop where
  runs : Added first.runs second.runs here.runs there.runs
  executed (name : String) : Added (first.executed.getD name 0) (second.executed.getD name 0)
    (here.executed.getD name 0) (there.executed.getD name 0)
  failed (name : String) : Added (first.failed.getD name 0) (second.failed.getD name 0)
    (here.failed.getD name 0) (there.failed.getD name 0)
  skipped : Added first.skipped second.skipped here.skipped there.skipped

variable {first second here there : Metrics}

theorem growAlike_refl (first second : Metrics) : GrowAlike first second first second where
  runs := added_zero ..
  executed _ := added_zero ..
  failed _ := added_zero ..
  skipped := added_zero ..

theorem added_increment {first second here there : NameMap UInt64}
    (hadded : ∀ name, Added (first.getD name 0) (second.getD name 0) (here.getD name 0)
      (there.getD name 0)) (name other : String) :
    Added (first.getD other 0) (second.getD other 0) ((increment here name).getD other 0)
      ((increment there name).getD other 0) := by
  rw [getD_increment, getD_increment]
  split
  · exact (hadded other).succ
  · exact hadded other

namespace GrowAlike

theorem recordExecution (hgrow : GrowAlike first second here there) (name : String)
    (duration duration' : Duration) (finished finished' : Instant) :
    GrowAlike first second (here.recordExecution name duration finished)
      (there.recordExecution name duration' finished') :=
  ⟨hgrow.runs, added_increment hgrow.executed name, hgrow.failed, hgrow.skipped⟩

theorem recordFailure (hgrow : GrowAlike first second here there) (name : String) :
    GrowAlike first second (here.recordFailure name) (there.recordFailure name) :=
  ⟨hgrow.runs, hgrow.executed, added_increment hgrow.failed name, hgrow.skipped⟩

theorem recordSkip (hgrow : GrowAlike first second here there) :
    GrowAlike first second here.recordSkip there.recordSkip :=
  ⟨hgrow.runs, hgrow.executed, hgrow.failed, hgrow.skipped.succ⟩

theorem recordSchedule (hgrow : GrowAlike first second here there) (length : Nat) :
    GrowAlike first second (here.recordSchedule length) (there.recordSchedule length) :=
  ⟨hgrow.runs.succ, hgrow.executed, hgrow.failed, hgrow.skipped⟩

end GrowAlike

end Metrics

namespace Site

/-- `here` and `there` are what has become of `first` and `second`.  The schedule and the
results are the same only after the runs have committed to a schedule. -/
structure Mirror (rewording : Rewording) (first second : Site) (committed : Prop)
    (here there : Site) : Prop where
  own : there.manager.own = here.manager.own
  settings : there.manager.settings = here.manager.settings
  managed : there.manager.managed = here.manager.managed
  selected : there.manager.selected = here.manager.selected
  dependencies : there.manager.dependencies = here.manager.dependencies
  defaultPass : there.manager.defaultPass = here.manager.defaultPass
  defaultResults : there.manager.defaultResults = here.manager.defaultResults
  stream : there.manager.stream = here.manager.stream
  executed : committed → there.manager.schedule = here.manager.schedule ∧
    there.manager.results = here.manager.results
  metrics : Metrics.GrowAlike first.manager.metrics second.manager.metrics here.manager.metrics
    there.manager.metrics
  world : World.Mirror rewording first.world second.world here.world there.world

variable {rewording : Rewording} {first second here there : Site} {committed : Prop}

namespace Mirror

/-! ## Observations -/

theorem record (hmirror : Mirror rewording first second committed here there)
    {event event' : Event} (hevent : event'.untimed = event.untimed) :
    Mirror rewording first second committed (here.record event) (there.record event') :=
  { hmirror with world := hmirror.world.record hevent }

theorem log (hmirror : Mirror rewording first second committed here there) (level : Level)
    (topic : Topic) (text : String) (took took' : Option Duration) :
    Mirror rewording first second committed (here.log level topic text took)
      (there.log level topic text took') :=
  hmirror.record rfl

theorem call (hmirror : Mirror rewording first second committed here there) (pass : Descriptor)
    (phase : Phase) :
    Mirror rewording first second committed (here.call pass phase) (there.call pass phase) :=
  hmirror.record rfl

/-! ## Collections -/

theorem info_eq (hmirror : Mirror rewording first second committed here there) (id : PassId) :
    there.world.catalog.info id = (here.world.catalog.info id).map (rewording.pass id) := by
  rw [hmirror.world.catalog, rewording.info_catalog]

theorem noteSelection (hmirror : Mirror rewording first second committed here there)
    (pass : Descriptor) (id : PassId) :
    Agree (Mirror rewording first second committed) (here.noteSelection pass id)
      (there.noteSelection (rewording.pass id pass) id) := by
  have hnoted : there.noteSelection (rewording.pass id pass) id = there.noteSelection pass id := rfl
  rw [hnoted, Site.noteSelection, Site.noteSelection]
  cases pass.selected with
  | false => exact ⟨rfl, hmirror⟩
  | true =>
      have htold := hmirror.log .debug .selection (pass.name ++ ": selected") none none
      simp only [if_true]
      rw [htold.selected]
      split
      · exact ⟨rfl, htold⟩
      · exact ⟨rfl, { htold with selected := congrArg (·.insert id) htold.selected }⟩

theorem noteUsage (hmirror : Mirror rewording first second committed here there)
    (pass : Descriptor) (id : PassId) :
    Mirror rewording first second committed (here.noteUsage pass id)
      (there.noteUsage (rewording.pass id pass) id) := by
  have hinquiry : (rewording.pass id pass).behaviour.inquiry = pass.behaviour.inquiry :=
    rewording.inquiry_eq id pass.behaviour
  have hasked := (hmirror.call pass pass.behaviour.inquiry).call pass .usage
  rw [Site.noteUsage, Site.noteUsage, hinquiry, rewording.usage_pass]
  exact { hasked with
    dependencies := congrArg (·.insert id pass.behaviour.usage) hmirror.dependencies }

theorem collectFrom (ids : List PassId)
    (hmirror : Mirror rewording first second committed here there) :
    Agree (Mirror rewording first second committed) (Site.collectFrom ids here)
      (Site.collectFrom ids there) := by
  induction ids generalizing here there with
  | nil => exact ⟨rfl, hmirror⟩
  | cons id rest ih =>
      rw [Site.collectFrom, Site.collectFrom, hmirror.info_eq]
      rcases here.world.catalog.info id with error | pass
      · exact ⟨rfl, hmirror⟩
      · have hagree := hmirror.noteSelection pass id
        obtain ⟨result, after, after', hhere, hthere, hnoted⟩ := hagree.exists
        dsimp only [Except.map]
        rw [hhere, hthere]
        rcases result with error | ⟨⟩
        · exact ⟨rfl, hnoted⟩
        · exact ih (hnoted.noteUsage pass id)

/-! ## Reports and plans -/

theorem name_eq (hmirror : Mirror rewording first second committed here there) :
    there.name = here.name := by
  funext id
  rw [name, name, hmirror.info_eq]
  cases here.world.catalog.info id with
  | error error => rfl
  | ok pass => rfl

theorem report_eq (hmirror : Mirror rewording first second committed here there) :
    there.report = here.report := by
  have hlines : there.edgeLines = here.edgeLines := by
    funext arrow ids
    rw [edgeLines, edgeLines, hmirror.name_eq]
  have hblock : there.block = here.block := by
    funext id
    rw [block, block, hmirror.name_eq, hlines, hmirror.dependencies]
  rw [report, report, hblock, hmirror.dependencies]

theorem dump (hmirror : Mirror rewording first second committed here there) :
    Agree (Mirror rewording first second committed) here.dump there.dump := by
  rw [dump_eq, dump_eq, hmirror.report_eq, hmirror.stream]
  rcases here.report with error | text
  · exact ⟨rfl, hmirror⟩
  · exact ⟨rfl, { hmirror with stream := rfl }⟩

theorem plan_eq (hmirror : Mirror rewording first second committed here there) :
    there.plan = here.plan := by
  have hgraph : there.graph = here.graph := by
    rw [graph, graph, hmirror.dependencies, hmirror.name_eq]
  rw [plan, plan, hgraph, hmirror.settings, hmirror.selected]

theorem runDump (hmirror : Mirror rewording first second committed here there) :
    Agree (Mirror rewording first second committed) here.runDump there.runDump := by
  rw [Site.runDump, Site.runDump, hmirror.dependencies]
  generalize _ ++ " passes" = text
  have hagree := (hmirror.log .info .execution text none none).dump
  obtain ⟨result, after, after', hhere, hthere, hdumped⟩ := hagree.exists
  rw [hhere, hthere]
  rcases result with halt | ⟨⟩
  · exact ⟨rfl, hdumped⟩
  · exact ⟨rfl, hdumped.record rfl⟩

/-! ## Slots -/

theorem count (hmirror : Mirror rewording first second committed here there)
    (change change' : Metrics → Metrics)
    (hchange : Metrics.GrowAlike first.manager.metrics second.manager.metrics
      (change here.manager.metrics) (change' there.manager.metrics)) :
    Mirror rewording first second committed (here.count change) (there.count change') := by
  rw [Site.count, Site.count, hmirror.settings]
  split
  · exact { hmirror with metrics := hchange }
  · exact hmirror

theorem abandon (hmirror : Mirror rewording first second committed here there) (slot : Nat)
    (pass : Descriptor) (stage : String) :
    Agree (Mirror rewording first second committed) (here.abandon slot pass stage)
      (there.abandon slot pass stage) := by
  have hwarned := hmirror.log .warn .execution
    ("'" ++ pass.name ++ "': " ++ stage ++ " failed, aborting schedule at slot " ++ toString slot)
    none none
  have hcounted := hmirror.metrics.recordFailure pass.name
  exact ⟨rfl, (hwarned.count (·.recordFailure pass.name) (·.recordFailure pass.name)
    hcounted).record rfl⟩

theorem withCatalog (hmirror : Mirror rewording first second committed here there)
    {after after' : Catalog} (hafter : after' = rewording.catalog after) :
    Mirror rewording first second committed
      { here with world := { here.world with catalog := after } }
      { there with world := { there.world with catalog := after' } } :=
  { hmirror with world := hmirror.world.withCatalog hafter }

theorem complete (hmirror : Mirror rewording first second committed here there)
    (timing again : Timing) (slot : Nat) (pass : Descriptor) (changes : UInt64) :
    Agree (Mirror rewording first second committed) (here.complete timing slot pass changes)
      (there.complete again slot pass changes) := by
  have hasked := hmirror.call pass .changes
  have hupdate : there.world.catalog.update pass.id (·.addChanges changes) =
      rewording.catalog (here.world.catalog.update pass.id (·.addChanges changes)) := by
    rw [hmirror.world.catalog]
    exact rewording.update_catalog _ _ fun _ => rfl
  have hcounted := hmirror.metrics.recordExecution pass.name (timing.slot slot) (again.slot slot)
    (timing.finished slot) (again.finished slot)
  exact ⟨rfl, (hasked.withCatalog hupdate).count
    (·.recordExecution pass.name (timing.slot slot) (timing.finished slot))
    (·.recordExecution pass.name (again.slot slot) (again.finished slot)) hcounted⟩

theorem conclude (hmirror : Mirror rewording first second committed here there)
    (timing again : Timing) (slot : Nat) (pass : Descriptor) (report : Report) :
    Agree (Mirror rewording first second committed) (here.conclude timing slot pass report)
      (there.conclude again slot pass report) := by
  have hdone := hmirror.log .debug .execution ("'" ++ pass.name ++ "': done")
    (some (timing.slot slot)) (some (again.slot slot))
  rw [Site.conclude, Site.conclude]
  cases report.succeeded with
  | false => exact (hdone.call pass .tearDown).abandon slot pass "run"
  | true =>
      have hverified := (hdone.call pass .verify).call pass .tearDown
      cases report.verified with
      | false => exact hverified.abandon slot pass "verify"
      | true => exact hverified.complete timing again slot pass report.changes

theorem prepare (hmirror : Mirror rewording first second committed here there)
    (pass : Descriptor) :
    Mirror rewording first second committed (here.prepare pass) (there.prepare pass) := by
  have hready := ((hmirror.call pass .construct).call pass .setStream).call pass .setUp
  exact ((hready.log ..).record rfl).call pass .run

theorem afterScene (hmirror : Mirror rewording first second True here there) {scene scene' : Scene}
    (hscene : Scene.Mirror rewording first.world second.world scene scene') :
    Mirror rewording first second True (here.afterScene scene) (there.afterScene scene') :=
  { hmirror with
    stream := hscene.stream
    executed := fun _ => ⟨(hmirror.executed trivial).1, hscene.results⟩
    world := hscene.world }

theorem invoke (hmirror : Mirror rewording first second True here there)
    (timing again : Timing) (slot : Nat) (id : PassId) (pass : Descriptor) :
    Agree (Mirror rewording first second True) (here.invoke timing slot pass)
      (there.invoke again slot (rewording.pass id pass)) := by
  have hrun : (rewording.pass id pass).behaviour.run = pass.behaviour.run :=
    rewording.run_eq id pass.behaviour
  have hready : Mirror rewording first second True (here.prepare pass)
      (there.prepare (rewording.pass id pass)) := hmirror.prepare pass
  have hscene : Scene.Mirror rewording first.world second.world ((here.prepare pass).scene pass)
      ((there.prepare (rewording.pass id pass)).scene (rewording.pass id pass)) :=
    ⟨rfl, rfl, (hready.executed trivial).2, hready.stream, hready.world⟩
  have hagree := pass.behaviour.run.mirror_exec hscene
  obtain ⟨reported, after, after', hhere, hthere, hafter⟩ := hagree.exists
  rw [Site.invoke, Site.invoke, hrun, hhere, hthere]
  cases reported with
  | none => exact ⟨rfl, hready.afterScene hafter⟩
  | some report => exact (hready.afterScene hafter).conclude timing again slot pass report

theorem skip (hmirror : Mirror rewording first second committed here there) (id : PassId)
    (pass : Descriptor) :
    Agree (Mirror rewording first second committed) (here.skip pass)
      (there.skip (rewording.pass id pass)) := by
  have htold := hmirror.log .debug .execution
    ("'" ++ pass.name ++ "': skipping, result already present!") none none
  exact ⟨rfl, { htold with metrics := hmirror.metrics.recordSkip }⟩

theorem executeSlot (hmirror : Mirror rewording first second True here there)
    (timing again : Timing) (slot : Nat) (id : PassId) :
    Agree (Mirror rewording first second True) (here.executeSlot timing slot id)
      (there.executeSlot again slot id) := by
  rw [Site.executeSlot, Site.executeSlot, hmirror.info_eq, (hmirror.executed trivial).2]
  rcases here.world.catalog.info id with error | pass
  · exact ⟨rfl, hmirror⟩
  · dsimp only [Except.map]
    split
    · exact hmirror.skip id pass
    · exact hmirror.invoke timing again slot id pass

/-! ## Executions -/

theorem executeFrom (timing again : Timing) (slot : Nat) (ids : List PassId)
    (hmirror : Mirror rewording first second True here there) :
    Agree (Mirror rewording first second True) (Site.executeFrom timing slot ids here)
      (Site.executeFrom again slot ids there) := by
  induction ids generalizing slot here there with
  | nil => exact ⟨rfl, hmirror⟩
  | cons id rest ih =>
      have hagree := hmirror.executeSlot timing again slot id
      obtain ⟨outcome, after, after', hhere, hthere, hafter⟩ := hagree.exists
      rw [Site.executeFrom, Site.executeFrom, hhere, hthere]
      cases outcome with
      | halted halt => exact ⟨rfl, hafter⟩
      | failed => exact ⟨rfl, hafter⟩
      | skipped => exact ih (slot + 1) hafter
      | completed => exact ih (slot + 1) hafter

/-- Execution starts over from the default results, and from here on there are the same
schedule and the same results on both sides. -/
theorem commit (hmirror : Mirror rewording first second committed here there)
    (timing again : Timing) (schedule : List PassId) :
    Mirror rewording first second True (here.commit timing schedule)
      (there.commit again schedule) := by
  have htold := hmirror.log .debug .execution
    ("scheduling: done, " ++ toString schedule.length ++ " slots") (some timing.scheduling)
    (some again.scheduling)
  exact { htold with
    executed := fun _ => ⟨rfl, hmirror.defaultResults⟩
    metrics := hmirror.metrics.recordSchedule schedule.length }

theorem execute (hmirror : Mirror rewording first second committed here there)
    (timing again : Timing) (schedule : List PassId) :
    Agree (Mirror rewording first second True) (here.execute timing schedule)
      (there.execute again schedule) := by
  have hagree :=
    (hmirror.commit timing again schedule).executeFrom timing again 0 schedule
  obtain ⟨result, after, after', hhere, hthere, hafter⟩ := hagree.exists
  rw [Site.execute, Site.execute, hhere, hthere]
  rcases result with halt | ⟨_ | _⟩
  · exact ⟨rfl, hafter⟩
  · exact ⟨rfl, hafter⟩
  · exact ⟨rfl, (hafter.log ..).record rfl⟩

theorem of_not (hmirror : Mirror rewording first second False here there)
    (hcommitted : ¬ committed) : Mirror rewording first second committed here there :=
  { hmirror with executed := fun hyes => absurd hyes hcommitted }

end Mirror

/-! ## Runs -/

/-- The same manager in the same world, but for the traces and for what earlier runs have left
behind, and with declarations that may be in other words. -/
structure Alike (rewording : Rewording) (first second : Site) : Prop where
  own : second.manager.own = first.manager.own
  settings : second.manager.settings = first.manager.settings
  managed : second.manager.managed = first.manager.managed
  defaultPass : second.manager.defaultPass = first.manager.defaultPass
  defaultResults : second.manager.defaultResults = first.manager.defaultResults
  stream : second.manager.stream = first.manager.stream
  catalog : second.world.catalog = rewording.catalog first.world.catalog
  input : second.world.input = first.world.input

namespace Alike

/-- What a manager has collected before is forgotten first. -/
theorem mirror (halike : Alike rewording first second) :
    Mirror rewording first second False first.forget second.forget where
  own := halike.own
  settings := halike.settings
  managed := halike.managed
  selected := rfl
  dependencies := rfl
  defaultPass := halike.defaultPass
  defaultResults := halike.defaultResults
  stream := halike.stream
  executed := False.elim
  metrics := Metrics.growAlike_refl ..
  world := ⟨halike.catalog, halike.input, [], [], by simp [forget, update],
    by simp [forget, update], rfl⟩

theorem collect (halike : Alike rewording first second) :
    Agree (Mirror rewording first second False) first.collect second.collect := by
  rw [Site.collect, Site.collect, halike.managed]
  exact halike.mirror.collectFrom _

theorem ready (halike : Alike rewording first second) {timing : Timing} {ready : Site}
    (hready : first.Ready timing ready) (again : Timing) :
    ∃ found, second.Ready again found ∧ Mirror rewording first second False ready found := by
  obtain ⟨hresult, hcollected⟩ := halike.collect
  have hdone : second.collect = (.ok (), second.collect.2) :=
    Prod.ext (hresult.trans hready.collect_eq) rfl
  cases hready with
  | chosen hcollect hselected =>
      rw [hcollect] at hcollected
      refine ⟨_, .chosen hdone ?_, hcollected.log ..⟩
      rw [hcollected.selected]
      exact hselected
  | @byDefault after id hcollect hselected hdefault =>
      rw [hcollect] at hcollected
      refine ⟨_, .byDefault hdone ?_ (hcollected.defaultPass.trans hdefault), ?_⟩
      · rw [hcollected.selected]
        exact hselected
      · have htold := hcollected.log .debug .execution "selection: done" (some timing.selection)
          (some again.selection)
        exact { htold with selected := congrArg (·.insert id) htold.selected }

theorem run (halike : Alike rewording first second) (timing again : Timing) :
    (second.run again).1 = (first.run timing).1 ∧
      Mirror rewording first second (∃ ready schedule, first.Executes timing ready schedule)
        (first.run timing).2 (second.run again).2 := by
  obtain ⟨hresult, hcollected⟩ := halike.collect
  -- What is said of executed schedules alone is void on every other course.
  have hstopped : first.Stops timing →
      ¬ ∃ ready schedule, first.Executes timing ready schedule := by
    rintro hstops ⟨ready, schedule, hexecutes⟩
    exact (first.stops_iff timing).mp hstops ready schedule hexecutes
  cases first.course timing with
  | @uncollected error after hcollect hrun =>
      rw [hcollect] at hresult hcollected
      have hfailed : second.collect = (.error error, second.collect.2) := Prod.ext hresult rfl
      rw [hrun, run_of_uncollected again hfailed]
      exact ⟨rfl, hcollected.of_not (hstopped (.uncollected hcollect))⟩
  | @idle after hcollect hselected hdefault hrun =>
      rw [hcollect] at hresult hcollected
      have hdone : second.collect = (.ok (), second.collect.2) := Prod.ext hresult rfl
      have hempty : second.collect.2.manager.selected.isEmpty = true := by
        rw [hcollected.selected]
        exact hselected
      rw [hrun, run_of_idle again hdone hempty (hcollected.defaultPass.trans hdefault)]
      have htold := (hcollected.log .debug .execution "selection: done" (some timing.selection)
        (some again.selection)).log .error .execution "no pass was selected" none none
      exact ⟨rfl, htold.of_not (hstopped (.idle hcollect hselected hdefault))⟩
  | @dumped ready hdumps hrun =>
      obtain ⟨found, hfound, hmirror⟩ := halike.ready hdumps.isReady again
      have hagain : second.Dumps again found :=
        ⟨hfound, by rw [hmirror.selected, hmirror.own]; exact hdumps.own⟩
      obtain ⟨hdumped, hafter⟩ := hmirror.runDump
      rw [hrun, hagain.run_eq]
      exact ⟨hdumped, hafter.of_not (hstopped (.dumped hdumps))⟩
  | @unplanned ready error hready hnotOwn hplan hrun =>
      obtain ⟨found, hfound, hmirror⟩ := halike.ready hready again
      have hother : found.manager.selected.contains found.manager.own = false := by
        rw [hmirror.selected, hmirror.own]
        exact hnotOwn
      rw [hrun, hfound.run_of_unplanned hother (hmirror.plan_eq.trans hplan)]
      exact ⟨rfl, hmirror.of_not (hstopped (.unplanned hready hnotOwn hplan))⟩
  | @executed ready schedule hexecutes hrun =>
      obtain ⟨found, hfound, hmirror⟩ := halike.ready hexecutes.isReady again
      have hagain : second.Executes again found schedule := by
        refine ⟨hfound, ?_, hmirror.plan_eq.trans hexecutes.planned⟩
        rw [hmirror.selected, hmirror.own]
        exact hexecutes.notOwn
      obtain ⟨hended, hafter⟩ := hmirror.execute timing again schedule
      rw [hrun, hagain.run_eq]
      exact ⟨hended, { hafter with executed := fun _ => hafter.executed trivial }⟩

theorem catalog_run (halike : Alike rewording first second) (timing again : Timing)
    (hcatalog : second.world.catalog = first.world.catalog) :
    (second.run again).2.world.catalog = (first.run timing).2.world.catalog := by
  have hplain : Alike .plain first second :=
    { halike with catalog := hcatalog.trans (Rewording.catalog_plain _).symm }
  rw [(hplain.run timing again).2.world.catalog, Rewording.catalog_plain]

end Alike

/-- A run leaves what its manager's task depends on. -/
theorem sameTask_rerun (site : Site) (timing : Timing) {world : World}
    (hrestates : site.world.catalog.Restates site.manager.managed world.catalog) :
    site.SameTask ⟨(site.run timing).2.manager, world⟩ := by
  obtain ⟨selected, schedule, results, stream, metrics, hframe⟩ := site.run_frame timing
  rw [hframe]
  exact ⟨rfl, rfl, rfl, rfl, hrestates⟩

/-- Two managers that differ only in what earlier runs have left behind run alike.  They end
with the same result and leave the same, up to what they do not replace and to the counters,
to which they add the same.  If the catalogue was the same to the word, it is so afterwards.

So a manager that runs again executes the same schedule as before, if the passes under
management have the same flags and the same declarations, in whatever order and however
often. -/
theorem run_independent (halike : Alike rewording first second) (timing again : Timing) :
    ((second.run again).1 = (first.run timing).1 ∧
      Mirror rewording first second (∃ ready schedule, first.Executes timing ready schedule)
        (first.run timing).2 (second.run again).2) ∧
    (second.world.catalog = first.world.catalog →
      (second.run again).2.world.catalog = (first.run timing).2.world.catalog) ∧
    ∀ ready schedule, first.Executes timing ready schedule →
      ∀ world : World, first.world.catalog.Restates first.manager.managed world.catalog →
        (∃ found, (⟨(first.run timing).2.manager, world⟩ : Site).Executes again found schedule) ∧
        ((⟨(first.run timing).2.manager, world⟩ : Site).run again).2.manager.schedule =
          (first.run timing).2.manager.schedule := by
  refine ⟨halike.run timing again, halike.catalog_run timing again, ?_⟩
  intro ready schedule hexecutes world hrestates
  obtain ⟨found, hagain⟩ := (first.sameTask_rerun timing hrestates).executes hexecutes again
  refine ⟨⟨found, hagain⟩, ?_⟩
  rw [hagain.schedule_eq, hexecutes.schedule_eq]

/-- Everything is declared twice, the first time backwards. -/
def echo : Rewording where
  behaviour _ given :=
    { given with declarations := given.declarations.reverse ++ given.declarations }
  run_eq _ _ := rfl
  inquiry_eq _ _ := rfl
  declaresAs _ given declaration := by
    unfold Behaviour.declared
    cases given.internalDeclarations with
    | none => simp
    | some declared => exact Iff.rfl

/-- Pass `1` is selected and requires `2` and `3`, and each of them writes its name. -/
def fresh : Site where
  manager := {
    own := ⟨0⟩
    managed := (∅ : IdSet).insert ⟨0⟩ |>.insert ⟨1⟩ |>.insert ⟨2⟩ |>.insert ⟨3⟩ }
  world := {
    catalog := {
      entries := (∅ : IdMap Descriptor)
        |>.insert ⟨0⟩ { Manager.registration with id := ⟨0⟩ }
        |>.insert ⟨1⟩ {
          name := "Sort", arg := "sort", id := ⟨1⟩, selected := true
          behaviour := {
            declarations := [.require ⟨2⟩, .require ⟨3⟩]
            run := .perform (.write "Sort") fun _ => .done { succeeded := true } } }
        |>.insert ⟨2⟩ {
          name := "Load", arg := "load", id := ⟨2⟩
          behaviour := {
            run := .perform (.write "Load") fun _ => .done { succeeded := true } } }
        |>.insert ⟨3⟩ {
          name := "Trim", arg := "trim", id := ⟨3⟩
          behaviour := {
            run := .perform (.write "Trim") fun _ => .done { succeeded := true } } } } }

/-- The same after five runs: its own pass was selected, `1` provided `2`, and there was a
value for the pass that is now the first to run. -/
def aged : Site where
  manager := { fresh.manager with
    selected := (∅ : IdSet).insert ⟨0⟩
    dependencies := ({} : Dependencies).insert ⟨1⟩ (.ofDeclarations [.provide ⟨2⟩])
    schedule := [⟨1⟩, ⟨2⟩]
    results := (∅ : Results).insert ⟨2⟩ (.flag true)
    metrics := { runs := 5, skipped := 4 } }
  world := { fresh.world with
    catalog := echo.catalog fresh.world.catalog
    trace := #[.flush] }

theorem executes_fresh :
    fresh.Executes {} (fresh.collect.2.log .debug .execution "selection: done" (some 0))
      [⟨2⟩, ⟨3⟩, ⟨1⟩] where
  isReady := .chosen (Prod.ext rfl rfl) (by decide)
  notOwn := by decide
  planned := by decide +kernel

theorem run_independent_aged :
    Alike echo fresh aged ∧ (aged.run {}).1 = .ok true ∧
    (aged.run {}).2.manager.schedule = [⟨2⟩, ⟨3⟩, ⟨1⟩] ∧
    (aged.run {}).2.manager.stream.contents = "LoadTrimSort".toUTF8 ∧
    (aged.run {}).2.manager.metrics.runs = 6 ∧ (aged.run {}).2.manager.metrics.skipped = 4 ∧
    ∃ found, (⟨(fresh.run {}).2.manager, aged.world⟩ : Site).Executes {} found
      [⟨2⟩, ⟨3⟩, ⟨1⟩] := by
  have halike : Alike echo fresh aged := ⟨rfl, rfl, rfl, rfl, rfl, rfl, rfl, rfl⟩
  obtain ⟨⟨hresult, hmirror⟩, -, hrerun⟩ := run_independent halike {} {}
  have hran : (fresh.run {}).1 = .ok true ∧
      (fresh.run {}).2.manager.stream.contents = "LoadTrimSort".toUTF8 ∧
      (fresh.run {}).2.manager.metrics.runs = 1 ∧
      (fresh.run {}).2.manager.metrics.skipped = 0 := by
    decide +kernel
  obtain ⟨hok, hcontents, hruns, hskipped⟩ := hran
  obtain ⟨hschedule, -⟩ := hmirror.executed ⟨_, _, executes_fresh⟩
  -- Both counts grow by the same number, which the fresh run tells.
  obtain ⟨runs, hfew, hmany⟩ := hmirror.metrics.runs
  obtain ⟨skipped, hnone, hold⟩ := hmirror.metrics.skipped
  refine ⟨halike, hresult.trans hok, hschedule.trans executes_fresh.schedule_eq, ?_, ?_, ?_, ?_⟩
  · rw [hmirror.stream, hcontents]
  · rw [hruns, show fresh.manager.metrics.runs = 0 from rfl, UInt64.zero_add] at hfew
    rw [hmany, ← hfew]
    rfl
  · rw [hskipped, show fresh.manager.metrics.skipped = 0 from rfl, UInt64.zero_add] at hnone
    rw [hold, ← hnone]
    rfl
  · exact (hrerun _ _ executes_fresh aged.world (echo.restates_catalog _ _)).1

end Site

end PassPipeline
