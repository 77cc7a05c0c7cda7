import PassPipeline.Proofs.Run.Course
import PassPipeline.Proofs.Stream.Writing

/-!
# What a run leaves alone

A slot changes the results, the stream and the counters of its manager and nothing else of
it, whatever the pass does: a pass never gets at the manager.  So an execution changes the
schedule besides, and a whole run the selection and the dependencies, which it leaves as
they were collected (`run_frame`).
-/

namespace PassPipeline.Site

theorem count_frame (site : Site) (change : Metrics → Metrics) :
    ∃ metrics, (site.count change).manager = { site.manager with metrics } := by
  unfold count
  split
  · exact ⟨_, rfl⟩
  · exact ⟨_, rfl⟩

theorem conclude_frame (site : Site) (timing : Timing) (slot : Nat) (pass : Descriptor)
    (report : Report) :
    ∃ metrics,
      (site.conclude timing slot pass report).2.manager = { site.manager with metrics } := by
  rw [conclude]
  cases report.succeeded with
  | false => exact count_frame ..
  | true =>
      cases report.verified with
      | false => exact count_frame ..
      | true => exact count_frame ..

theorem invoke_frame (site : Site) (timing : Timing) (slot : Nat) (pass : Descriptor) :
    ∃ results stream metrics,
      (site.invoke timing slot pass).2.manager =
        { site.manager with results, stream, metrics } := by
  rw [invoke]
  rcases pass.behaviour.run.exec ((site.prepare pass).scene pass) with ⟨_ | report, scene⟩
  · exact ⟨_, _, _, rfl⟩
  · obtain ⟨metrics, hconclude⟩ :=
      ((site.prepare pass).afterScene scene).conclude_frame timing slot pass report
    exact ⟨_, _, _, hconclude⟩

theorem executeSlot_frame (site : Site) (timing : Timing) (slot : Nat) (id : PassId) :
    ∃ results stream metrics,
      (site.executeSlot timing slot id).2.manager =
        { site.manager with results, stream, metrics } := by
  rw [executeSlot]
  split
  · exact ⟨_, _, _, rfl⟩
  · split
    · exact ⟨_, _, _, rfl⟩
    · exact invoke_frame ..

theorem executeFrom_frame (timing : Timing) (slot : Nat) (ids : List PassId) (site : Site) :
    ∃ results stream metrics,
      (executeFrom timing slot ids site).2.manager =
        { site.manager with results, stream, metrics } := by
  induction ids generalizing slot site with
  | nil => exact ⟨_, _, _, rfl⟩
  | cons id rest ih =>
      obtain ⟨results, stream, metrics, hslot⟩ := site.executeSlot_frame timing slot id
      rw [executeFrom]
      rcases hexecute : site.executeSlot timing slot id with ⟨outcome, after⟩
      rw [hexecute] at hslot
      obtain ⟨laterResults, laterStream, laterMetrics, hrest⟩ := ih (slot + 1) after
      rw [hslot] at hrest
      cases outcome with
      | halted halt => exact ⟨_, _, _, hslot⟩
      | failed => exact ⟨_, _, _, hslot⟩
      | skipped => exact ⟨_, _, _, hrest⟩
      | completed => exact ⟨_, _, _, hrest⟩

theorem execute_frame (site : Site) (timing : Timing) (schedule : List PassId) :
    ∃ results stream metrics,
      (site.execute timing schedule).2.manager =
        { site.manager with schedule, results, stream, metrics } := by
  obtain ⟨results, stream, metrics, hexecute⟩ :=
    executeFrom_frame timing 0 schedule (site.commit timing schedule)
  rw [execute]
  split
  · next after hafter =>
    rw [hafter] at hexecute
    exact ⟨_, _, _, hexecute⟩
  · exact ⟨_, _, _, hexecute⟩

/-- The schedule that a run executes is the one that it leaves. -/
theorem Executes.schedule_eq {site ready : Site} {timing : Timing} {schedule : List PassId}
    (hexecutes : site.Executes timing ready schedule) :
    (site.run timing).2.manager.schedule = schedule := by
  obtain ⟨results, stream, metrics, hexecute⟩ := ready.execute_frame timing schedule
  rw [hexecutes.run_eq, hexecute]

/-- A dump publishes the report, if there is one. -/
theorem dump_eq (site : Site) :
    site.dump =
      match site.report with
      | .error error => (.error (.refused error), site)
      | .ok text =>
        ((site.manager.stream.publish text).1,
          site.update ({ · with stream := (site.manager.stream.publish text).2 }) ) := by
  rw [dump]
  rcases site.report with error | text
  · rfl
  · dsimp only
    rw [Stream.publish]
    rcases site.manager.stream.writeText text with ⟨halt | ⟨⟩, written⟩
    · rfl
    · dsimp only
      rcases written.flush with ⟨error | ⟨⟩, stream⟩
      · rfl
      · rfl

theorem dump_frame (site : Site) :
    ∃ stream, site.dump.2 = site.update ({ · with stream }) := by
  rw [dump_eq]
  rcases site.report with error | text
  · exact ⟨_, rfl⟩
  · exact ⟨_, rfl⟩

/-- A message in the log makes no difference to a dump. -/
theorem dump_log (site : Site) (level : Level) (topic : Topic) (text : String)
    (took : Option Duration) :
    (site.log level topic text took).dump =
      (site.dump.1, site.dump.2.log level topic text took) := by
  have hreport : (site.log level topic text took).report = site.report := rfl
  rw [dump_eq, dump_eq, hreport]
  rcases site.report with error | report
  · rfl
  · rfl

/-- A run that writes the report announces it, and the dump decides how it ends. -/
theorem runDump_eq (site : Site) :
    ∃ text, site.runDump =
      match site.dump with
      | (.error halt, after) => (.error halt, after.log .info .execution text none)
      | (.ok (), after) => (.ok true, (after.log .info .execution text none).record .flush) := by
  rw [runDump, dump_log]
  rcases site.dump with ⟨halt | ⟨⟩, after⟩
  · exact ⟨_, rfl⟩
  · exact ⟨_, rfl⟩

theorem runDump_frame (site : Site) :
    ∃ stream trace, site.runDump.2 =
      { manager := { site.manager with stream }, world := { site.world with trace } } := by
  obtain ⟨text, hrun⟩ := site.runDump_eq
  obtain ⟨stream, hdump⟩ := site.dump_frame
  rw [hrun]
  rcases hdumped : site.dump with ⟨halt | ⟨⟩, after⟩ <;> rw [hdumped] at hdump
  · obtain rfl : after = _ := hdump
    exact ⟨_, _, rfl⟩
  · obtain rfl : after = _ := hdump
    exact ⟨_, _, rfl⟩

/-- A run changes what it rebuilds and what it counts, and writes to the stream.  The rest of
the manager stays. -/
theorem run_frame (site : Site) (timing : Timing) :
    ∃ selected schedule results stream metrics,
      (site.run timing).2.manager =
        { site.manager with
          selected, dependencies := site.collect.2.manager.dependencies
          schedule, results, stream, metrics } := by
  obtain ⟨selected, dependencies, trace, hcollect⟩ := site.collect_frame
  -- On every course the collection comes first, and what follows it leaves the dependencies.
  cases site.course timing with
  | @uncollected error after hfailed hrun =>
      rw [hfailed] at hcollect
      subst hcollect
      rw [hrun, hfailed]
      exact ⟨_, _, _, _, _, rfl⟩
  | @idle after hcollected _ _ hrun =>
      rw [hcollected] at hcollect
      subst hcollect
      rw [hrun, hcollected]
      exact ⟨_, _, _, _, _, rfl⟩
  | @dumped ready hdumps hrun =>
      obtain ⟨stream, trace, hdump⟩ := ready.runDump_frame
      obtain ⟨chosen, observed, hready⟩ := hdumps.isReady.frame
      rw [hrun, hdump, hready]
      exact ⟨_, _, _, _, _, rfl⟩
  | @unplanned ready error hready _ _ hrun =>
      obtain ⟨chosen, observed, hready⟩ := hready.frame
      rw [hrun, hready]
      exact ⟨_, _, _, _, _, rfl⟩
  | @executed ready schedule hexecutes hrun =>
      obtain ⟨results, stream, metrics, hexecute⟩ := ready.execute_frame timing schedule
      obtain ⟨chosen, observed, hready⟩ := hexecutes.isReady.frame
      rw [hrun, hexecute, hready]
      exact ⟨_, _, _, _, _, rfl⟩

end PassPipeline.Site
