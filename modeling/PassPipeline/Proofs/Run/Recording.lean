import PassPipeline.Manager.Run
import PassPipeline.Proofs.Run.Collection

/-!
# Recording makes no difference

Whether a manager records what becomes of its slots, and what it has recorded, is read by
nothing else: a run of a manager with other counters, or with recording turned on or off, has
the same result and leaves the same world, and it differs in nothing but the counters
(`run_metered`).  Every stage of a run is gone through with the two managers side by side.
-/

namespace PassPipeline.Site

/-- The site with other counters, and with recording turned on or off. -/
def metered (site : Site) (recording : Bool) (metrics : Metrics) : Site :=
  site.update fun manager =>
    { manager with settings := { manager.settings with recordMetrics := recording }, metrics }

/-- The second outcome is the first, but for the counters. -/
def Metered {α : Type} (recording : Bool) (first second : α × Site) : Prop :=
  ∃ metrics, second = (first.1, first.2.metered recording metrics)

variable (recording : Bool) (metrics : Metrics)

/-! ## Slots -/

theorem count_metered (site : Site) (change : Metrics → Metrics) :
    ∃ counted, (site.metered recording metrics).count change =
      (site.count change).metered recording counted := by
  rw [count, count]
  cases (site.metered recording metrics).manager.settings.recordMetrics <;>
    cases site.manager.settings.recordMetrics <;> exact ⟨_, rfl⟩

theorem abandon_metered (site : Site) (slot : Nat) (pass : Descriptor) (stage : String) :
    Metered recording (site.abandon slot pass stage)
      ((site.metered recording metrics).abandon slot pass stage) := by
  let warned := site.log .warn .execution
    ("'" ++ pass.name ++ "': " ++ stage ++ " failed, aborting schedule at slot " ++ toString slot)
    none
  obtain ⟨counted, hcount⟩ := warned.count_metered recording metrics (·.recordFailure pass.name)
  exact ⟨counted, congrArg (fun site => (SlotOutcome.failed, site.record .flush)) hcount⟩

theorem complete_metered (site : Site) (timing : Timing) (slot : Nat) (pass : Descriptor)
    (changes : UInt64) :
    Metered recording (site.complete timing slot pass changes)
      ((site.metered recording metrics).complete timing slot pass changes) := by
  let asked := site.call pass .changes
  let credited := { asked with
    world := { asked.world with
      catalog := asked.world.catalog.update pass.id (·.addChanges changes) } }
  obtain ⟨counted, hcount⟩ := credited.count_metered recording metrics
    (·.recordExecution pass.name (timing.slot slot) (timing.finished slot))
  exact ⟨counted, congrArg (Prod.mk SlotOutcome.completed) hcount⟩

theorem conclude_metered (site : Site) (timing : Timing) (slot : Nat) (pass : Descriptor)
    (report : Report) :
    Metered recording (site.conclude timing slot pass report)
      ((site.metered recording metrics).conclude timing slot pass report) := by
  rw [conclude, conclude]
  cases report.succeeded with
  | false => exact abandon_metered ..
  | true =>
    cases report.verified with
    | false => exact abandon_metered ..
    | true => exact complete_metered ..

theorem invoke_metered (site : Site) (timing : Timing) (slot : Nat) (pass : Descriptor) :
    Metered recording (site.invoke timing slot pass)
      ((site.metered recording metrics).invoke timing slot pass) := by
  -- A pass does not reach the settings and the counters of its manager.
  have hscene : ((site.metered recording metrics).prepare pass).scene pass =
      (site.prepare pass).scene pass := rfl
  rw [invoke, invoke, hscene]
  rcases pass.behaviour.run.exec ((site.prepare pass).scene pass) with ⟨_ | report, scene⟩
  · exact ⟨metrics, rfl⟩
  · exact conclude_metered recording metrics ((site.prepare pass).afterScene scene) timing slot
      pass report

theorem executeSlot_metered (site : Site) (timing : Timing) (slot : Nat) (id : PassId) :
    Metered recording (site.executeSlot timing slot id)
      ((site.metered recording metrics).executeSlot timing slot id) := by
  have hinfo : (site.metered recording metrics).world.catalog.info id =
      site.world.catalog.info id := rfl
  have hresults : (site.metered recording metrics).manager.results = site.manager.results := rfl
  rw [executeSlot, executeSlot, hinfo, hresults]
  rcases site.world.catalog.info id with error | pass
  · exact ⟨metrics, rfl⟩
  · dsimp only
    split
    · exact ⟨_, rfl⟩
    · exact invoke_metered ..

/-! ## Runs -/

/-- The induction is on the slots that remain, for any counters. -/
theorem executeFrom_metered (timing : Timing) (slot : Nat) (ids : List PassId) (site : Site) :
    Metered recording (executeFrom timing slot ids site)
      (executeFrom timing slot ids (site.metered recording metrics)) := by
  induction ids generalizing metrics slot site with
  | nil => exact ⟨metrics, rfl⟩
  | cons id rest ih =>
    obtain ⟨counted, hslot⟩ :=
      executeSlot_metered recording metrics site timing slot id
    rw [executeFrom, executeFrom, hslot]
    rcases site.executeSlot timing slot id with ⟨outcome, after⟩
    cases outcome with
    | halted halt => exact ⟨counted, rfl⟩
    | failed => exact ⟨counted, rfl⟩
    | skipped => exact ih counted (slot + 1) after
    | completed => exact ih counted (slot + 1) after

theorem execute_metered (site : Site) (timing : Timing) (schedule : List PassId) :
    Metered recording (site.execute timing schedule)
      ((site.metered recording metrics).execute timing schedule) := by
  obtain ⟨counted, hslots⟩ :=
    executeFrom_metered recording (metrics.recordSchedule schedule.length) timing 0 schedule
      (site.commit timing schedule)
  have hcommit : (site.metered recording metrics).commit timing schedule =
      (site.commit timing schedule).metered recording (metrics.recordSchedule schedule.length) :=
    rfl
  rw [execute, execute, hcommit, hslots]
  rcases executeFrom timing 0 schedule (site.commit timing schedule) with
    ⟨halt | ⟨_ | _⟩, after⟩
  · exact ⟨counted, rfl⟩
  · exact ⟨counted, rfl⟩
  · exact ⟨counted, rfl⟩

theorem dump_metered (site : Site) :
    Metered recording site.dump (site.metered recording metrics).dump := by
  have hreport : (site.metered recording metrics).report = site.report := rfl
  have hstream : (site.metered recording metrics).manager.stream = site.manager.stream := rfl
  rw [dump, dump, hreport, hstream]
  rcases site.report with error | text
  · exact ⟨metrics, rfl⟩
  · dsimp only
    rcases site.manager.stream.writeText text with ⟨halt | ⟨⟩, written⟩
    · exact ⟨metrics, rfl⟩
    · dsimp only
      rcases written.flush with ⟨error | ⟨⟩, stream⟩
      · exact ⟨metrics, rfl⟩
      · exact ⟨metrics, rfl⟩

theorem runDump_metered (site : Site) :
    Metered recording site.runDump (site.metered recording metrics).runDump := by
  let announcement := "Dumping pass dependency graph for " ++
    toString site.manager.dependencies.usages.size ++ " passes"
  have htold : (site.metered recording metrics).log .info .execution announcement none =
      (site.log .info .execution announcement none).metered recording metrics := rfl
  have hsame : (site.metered recording metrics).manager.dependencies =
      site.manager.dependencies := rfl
  obtain ⟨counted, hdump⟩ :=
    (site.log .info .execution announcement none).dump_metered recording metrics
  rw [runDump, runDump, hsame, htold, hdump]
  rcases (site.log .info .execution announcement none).dump with ⟨halt | ⟨⟩, after⟩
  · exact ⟨counted, rfl⟩
  · exact ⟨counted, rfl⟩

theorem runSelected_metered (site : Site) (timing : Timing) :
    Metered recording (site.runSelected timing)
      ((site.metered recording metrics).runSelected timing) := by
  have hplan : (site.metered recording metrics).plan = site.plan := rfl
  have hown : (site.metered recording metrics).manager.selected.contains
      (site.metered recording metrics).manager.own =
      site.manager.selected.contains site.manager.own := rfl
  rw [runSelected, runSelected, hown, hplan]
  split
  · exact runDump_metered recording metrics site
  · rcases site.plan with error | schedule
    · exact ⟨metrics, rfl⟩
    · exact execute_metered recording metrics site timing schedule

theorem runDefault_metered (site : Site) (timing : Timing) :
    Metered recording (site.runDefault timing)
      ((site.metered recording metrics).runDefault timing) := by
  have hdefault : (site.metered recording metrics).manager.defaultPass =
      site.manager.defaultPass := rfl
  rw [runDefault, runDefault, hdefault]
  rcases site.manager.defaultPass with _ | id
  · exact ⟨metrics, rfl⟩
  · exact runSelected_metered recording metrics (site.update fun manager =>
      { manager with selected := manager.selected.insert id }) timing

theorem collect_metered (site : Site) :
    (site.metered recording metrics).collect =
      (site.collect.1, site.collect.2.metered recording metrics) := by
  have haside : Manager.Aside fun manager =>
      { manager with
        settings := { manager.settings with recordMetrics := recording }, metrics } :=
    ⟨fun _ => rfl, fun _ => rfl, fun _ => rfl, fun _ _ => rfl, fun _ _ => rfl⟩
  exact collect_update haside site

theorem run_metered (site : Site) (timing : Timing) :
    Metered recording (site.run timing) ((site.metered recording metrics).run timing) := by
  rw [run, run, collect_metered]
  rcases site.collect with ⟨error | ⟨⟩, after⟩
  · exact ⟨metrics, rfl⟩
  · let told := after.log .debug .execution "selection: done" (some timing.selection)
    show Metered recording
      (if told.manager.selected.isEmpty then told.runDefault timing else told.runSelected timing)
      (if told.manager.selected.isEmpty then (told.metered recording metrics).runDefault timing
        else (told.metered recording metrics).runSelected timing)
    split
    · exact told.runDefault_metered recording metrics timing
    · exact told.runSelected_metered recording metrics timing

end PassPipeline.Site
