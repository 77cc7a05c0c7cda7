import PassPipeline.Dependencies
import PassPipeline.Metrics
import PassPipeline.Settings
import PassPipeline.Stream.Sink
import PassPipeline.World

/-!
# Managers

A manager has passes under management and runs them.  It is itself entered in the
catalogue, as a pass of its own whose selection asks for a report of the
dependencies instead of a run.  What a run leaves behind, the selection, the
collected dependencies, the schedule and the results, stays readable until the next
run.
-/

namespace PassPipeline

/-- A manager. -/
structure Manager where
  /-- The identity of the manager's own pass. -/
  own : PassId
  settings : Settings := {}
  managed : IdSet := ∅
  selected : IdSet := ∅
  dependencies : Dependencies := {}
  /-- The pass that runs when none is selected. -/
  defaultPass : Option PassId := none
  /-- The results that every run starts from. -/
  defaultResults : Results := ∅
  results : Results := ∅
  schedule : List PassId := []
  stream : Stream := .buffer
  metrics : Metrics := {}

namespace Manager

/-- The argument that selects the manager's own pass. -/
def ownArg : String := "pm-dump"

/-- The manager's own pass.  It declares nothing, and its run does nothing. -/
def registration : Registration where
  name := "PassManager"
  description := "displays the pass manager calculated pass dependency graph"
  arg := ownArg
  behaviour := { run := .done { succeeded := true } }

/-- The message that a pass has come under management. -/
def managing (id : PassId) : Message where
  level := .info
  topic := .management
  text := "Managing pass " ++ id.display

/-- Puts a pass under management, which it must not be already. -/
def add (manager : Manager) (world : World) (id : PassId) :
    Except PassError Unit × Manager × World :=
  if manager.managed.contains id then
    match world.catalog.info id with
    | .ok pass => (.error (.alreadyManaged pass.name), manager, world)
    | .error error => (.error error, manager, world)
  else
    (.ok (), { manager with managed := manager.managed.insert id }, world.log (managing id))

/-- A new manager, whose own pass has to be in the catalogue and comes under
management first. -/
def create (world : World) (settings : Settings) : Except PassError (Manager × World) :=
  match world.catalog.findArg ownArg with
  | none => .error (.unknownArg ownArg)
  | some own =>
    .ok ({ own, settings, managed := (∅ : IdSet).insert own }, world.log (managing own))

end Manager

/-- A manager in the world. -/
structure Site where
  manager : Manager
  world : World

namespace Site

/-- Adds an observation to the trace. -/
def record (site : Site) (event : Event) : Site := { site with world := site.world.record event }

/-- Adds a message to the log. -/
def log (site : Site) (level : Level) (topic : Topic) (text : String)
    (took : Option Duration) : Site :=
  site.record (.log { level, topic, text, took })

/-- Records a call to a pass. -/
def call (site : Site) (pass : Descriptor) (phase : Phase) : Site :=
  site.record (.call pass.id pass.name phase)

/-- Changes the manager. -/
def update (site : Site) (change : Manager → Manager) : Site :=
  { site with manager := change site.manager }

/-- The name of a pass. -/
def name (site : Site) (id : PassId) : Except PassError String :=
  (site.world.catalog.info id).map (·.name)

end Site

end PassPipeline
