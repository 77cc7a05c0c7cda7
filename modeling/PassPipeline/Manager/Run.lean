import PassPipeline.Manager.Collect
import PassPipeline.Manager.Dump
import PassPipeline.Schedule

/-!
# Runs

A run collects, completes an empty selection by the default pass, and then either
writes the report of the dependencies, if the manager's own pass is selected, or
builds a schedule and executes it slot by slot.  Execution starts from the default
results and ends at the first slot that fails.  Only the leading slot may be skipped,
which happens if the default results hold a value for it.

Everything that a run rebuilds it rebuilds before it reads it.  The schedule, the
results and the counters change only when a schedule has been built.
-/

namespace PassPipeline

/-- The readings of a clock during one run, as the caller took them. -/
structure Timing where
  selection : Duration := 0
  /-- The time up to the finished schedule. -/
  scheduling : Duration := 0
  whole : Duration := 0
  slot : Nat → Duration := fun _ => 0
  /-- The time at which each slot was finished. -/
  finished : Nat → Instant := fun _ => 0

/-- How the execution of a slot ended. -/
inductive SlotOutcome where
  | skipped
  | completed
  /-- The run of the pass, or the check after it, failed. -/
  | failed
  /-- The slot, or the program in it, could not go on. -/
  | halted (halt : Halt)
  deriving DecidableEq, Repr

namespace Site

/-- The dependencies as the search for a schedule sees them. -/
def graph (site : Site) : Schedule.Graph where
  children := site.manager.dependencies.children
  name := site.name

/-- The schedule of the selected passes. -/
def plan (site : Site) : Except PassError (List PassId) :=
  Schedule.build site.graph site.manager.settings.scheduleLimit site.manager.selected.toList

/-! ## Slots -/

/-- What a pass of a slot can reach. -/
def scene (site : Site) (pass : Descriptor) : Scene where
  self := pass.id
  name := pass.name
  results := site.manager.results
  stream := site.manager.stream
  world := site.world

/-- The site after a pass has left its scene. -/
def afterScene (site : Site) (scene : Scene) : Site where
  manager := { site.manager with results := scene.results, stream := scene.stream }
  world := scene.world

/-- Changes the counters, if the settings ask for them. -/
def count (site : Site) (change : Metrics → Metrics) : Site :=
  if site.manager.settings.recordMetrics then
    site.update fun manager => { manager with metrics := change manager.metrics }
  else site

/-- Ends a slot whose stage of that name failed. -/
def abandon (site : Site) (slot : Nat) (pass : Descriptor) (stage : String) :
    SlotOutcome × Site :=
  let warned := site.log .warn .execution
    ("'" ++ pass.name ++ "': " ++ stage ++ " failed, aborting schedule at slot " ++ toString slot)
    none
  (.failed, (warned.count (·.recordFailure pass.name)).record .flush)

/-- Ends a slot that succeeded. -/
def complete (site : Site) (timing : Timing) (slot : Nat) (pass : Descriptor) (changes : UInt64) :
    SlotOutcome × Site :=
  let asked := site.call pass .changes
  let credited := { asked with
    world := { asked.world with
      catalog := asked.world.catalog.update pass.id (·.addChanges changes) } }
  (.completed,
    credited.count (·.recordExecution pass.name (timing.slot slot) (timing.finished slot)))

/-- Concludes a slot whose run has ended with a report. -/
def conclude (site : Site) (timing : Timing) (slot : Nat) (pass : Descriptor) (report : Report) :
    SlotOutcome × Site :=
  let done := site.log .debug .execution ("'" ++ pass.name ++ "': done") (some (timing.slot slot))
  if report.succeeded then
    let verified := (done.call pass .verify).call pass .tearDown
    if report.verified then verified.complete timing slot pass report.changes
    else verified.abandon slot pass "verify"
  else (done.call pass .tearDown).abandon slot pass "run"

/-- Takes a fresh instance of a pass up to the start of its run. -/
def prepare (site : Site) (pass : Descriptor) : Site :=
  let ready := ((site.call pass .construct).call pass .setStream).call pass .setUp
  ((ready.log .debug .execution ("'" ++ pass.name ++ "': running") none).record .flush).call
    pass .run

/-- Runs a fresh instance of a pass. -/
def invoke (site : Site) (timing : Timing) (slot : Nat) (pass : Descriptor) :
    SlotOutcome × Site :=
  let ready := site.prepare pass
  match pass.behaviour.run.exec (ready.scene pass) with
  | (none, scene) => (.halted .panicked, ready.afterScene scene)
  | (some report, scene) => (ready.afterScene scene).conclude timing slot pass report

/-- Skips the leading slot. -/
def skip (site : Site) (pass : Descriptor) : SlotOutcome × Site :=
  let told := site.log .debug .execution
    ("'" ++ pass.name ++ "': skipping, result already present!") none
  (.skipped, told.update fun manager => { manager with metrics := manager.metrics.recordSkip })

/-- Executes one slot of the schedule. -/
def executeSlot (site : Site) (timing : Timing) (slot : Nat) (id : PassId) :
    SlotOutcome × Site :=
  match site.world.catalog.info id with
  | .error error => (.halted (.refused error), site)
  | .ok pass =>
    if slot = 0 && site.manager.results.contains id then site.skip pass
    else site.invoke timing slot pass

/-- Executes the slots from the given one on. -/
def executeFrom (timing : Timing) (slot : Nat) : List PassId → Site → Except Halt Bool × Site
  | [], site => (.ok true, site)
  | id :: rest, site =>
    match site.executeSlot timing slot id with
    | (.halted halt, after) => (.error halt, after)
    | (.failed, after) => (.ok false, after)
    | (.skipped, after) => executeFrom timing (slot + 1) rest after
    | (.completed, after) => executeFrom timing (slot + 1) rest after

/-! ## The whole run -/

/-- Commits to a schedule: counts it, and starts over from the default results. -/
def commit (site : Site) (timing : Timing) (schedule : List PassId) : Site :=
  let told := site.log .debug .execution
    ("scheduling: done, " ++ toString schedule.length ++ " slots") (some timing.scheduling)
  told.update fun manager =>
    { manager with
      schedule
      metrics := manager.metrics.recordSchedule schedule.length
      results := manager.defaultResults }

/-- Executes a schedule. -/
def execute (site : Site) (timing : Timing) (schedule : List PassId) : Except Halt Bool × Site :=
  match executeFrom timing 0 schedule (site.commit timing schedule) with
  | (.ok true, after) =>
    (.ok true, (after.log .debug .execution "running passes: done" (some timing.whole)).record
      .flush)
  | ended => ended

/-- Writes the report of the dependencies in place of a run. -/
def runDump (site : Site) : Except Halt Bool × Site :=
  let told := site.log .info .execution
    ("Dumping pass dependency graph for " ++ toString site.manager.dependencies.usages.size ++
      " passes") none
  match told.dump with
  | (.error halt, after) => (.error halt, after)
  | (.ok (), after) => (.ok true, after.record .flush)

/-- Runs with the selection as it stands. -/
def runSelected (site : Site) (timing : Timing) : Except Halt Bool × Site :=
  if site.manager.selected.contains site.manager.own then site.runDump
  else
    match site.plan with
    | .error error => (.error (.refused error), site)
    | .ok schedule => site.execute timing schedule

/-- Runs the default pass, if there is one. -/
def runDefault (site : Site) (timing : Timing) : Except Halt Bool × Site :=
  match site.manager.defaultPass with
  | none => (.ok false, site.log .error .execution "no pass was selected" none)
  | some id =>
    (site.update fun manager => { manager with selected := manager.selected.insert id }).runSelected
      timing

/-- Runs the selected passes and everything that has to run before them. -/
def run (site : Site) (timing : Timing) : Except Halt Bool × Site :=
  match site.collect with
  | (.error error, after) => (.error (.refused error), after)
  | (.ok (), after) =>
    let told := after.log .debug .execution "selection: done" (some timing.selection)
    if told.manager.selected.isEmpty then told.runDefault timing else told.runSelected timing

end Site

end PassPipeline
