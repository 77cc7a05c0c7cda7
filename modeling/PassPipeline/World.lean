import PassPipeline.Catalog
import PassPipeline.Stream

/-!
# The surroundings of a run

The world is what managers share: the catalogue, the standard input, and the trace
of what was observed.  A running pass reaches the world, the results of the run
and the output stream of its manager, and nothing else.
-/

namespace PassPipeline

/-- What managers and passes share. -/
structure World where
  catalog : Catalog := {}
  /-- The bytes of the standard input that nobody has read. -/
  input : ByteArray := ByteArray.empty
  trace : Array Event := #[]

namespace World

/-- Adds an observation to the trace. -/
def record (world : World) (event : Event) : World :=
  { world with trace := world.trace.push event }

/-- Adds a message to the log. -/
def log (world : World) (message : Message) : World := world.record (.log message)

end World

/-- What a running pass can reach. -/
structure Scene where
  /-- The identity of the running pass. -/
  self : PassId
  name : String
  results : Results
  stream : Stream
  /-- What is shared with every other pass and manager. -/
  world : World

namespace Scene

/-- Adds a remark of the running pass to the trace. -/
def note (scene : Scene) (text : String) : Scene :=
  { scene with world := scene.world.record (.note scene.self scene.name text) }

/-- Replaces the catalogue. -/
def withCatalog (scene : Scene) (catalog : Catalog) : Scene :=
  { scene with world := { scene.world with catalog } }

/-- Has one effect.  There is no answer if the running pass dies: by itself, or of a write. -/
def perform (scene : Scene) : (effect : Effect) → Option effect.Answer × Scene
  | .whoAmI => (some scene.self, scene)
  | .fetch id kind => (some (scene.results.fetch id kind), scene)
  | .holds id => (some (scene.results.contains id), scene)
  | .store id value => (some (), { scene with results := scene.results.insert id value })
  | .discard id =>
    (some (scene.results.contains id), { scene with results := scene.results.erase id })
  | .stored => (some scene.results.keys, scene)
  | .write text =>
    match scene.stream.writeText text with
    | (.ok (), stream) => (some (.ok ()), { scene with stream })
    | (.error (.refused error), stream) => (some (.error error), { scene with stream })
    | (.error .panicked, stream) => (none, { scene with stream })
  | .readInput =>
    (some (String.fromUTF8? scene.world.input),
      { scene with world := { scene.world with input := ByteArray.empty } })
  | .mark id selected =>
    match scene.world.catalog.setSelected id selected with
    | .ok catalog => (some (.ok ()), scene.withCatalog catalog)
    | .error error => (some (.error error), scene)
  | .credit id count =>
    match scene.world.catalog.addChanges id count with
    | .ok catalog => (some (.ok ()), scene.withCatalog catalog)
    | .error error => (some (.error error), scene)
  | .inspect id =>
    (some ((scene.world.catalog.info id).map fun pass => (pass.changes, pass.selected)), scene)
  | .withdraw id =>
    (some (scene.world.catalog.withdraw id).1,
      scene.withCatalog (scene.world.catalog.withdraw id).2)
  | .recall =>
    (some (((scene.world.catalog.find? scene.self).map (·.memory)).getD 0), scene)
  | .remember memory =>
    (some (), scene.withCatalog (scene.world.catalog.update scene.self ({ · with memory })))
  | .note text => (some (), scene.note text)
  | .log level text =>
    (some (), { scene with world := scene.world.log { level, topic := .pipeline, text } })
  | .panic => (none, scene)

end Scene

/-- Carries a program out.  There is no value if the running pass dies. -/
def Program.exec {α : Type} : Program α → Scene → Option α × Scene
  | .done value, scene => (some value, scene)
  | .perform effect next, scene =>
    match scene.perform effect with
    | (some answer, after) => (next answer).exec after
    | (none, after) => (none, after)

/-- A program that goes on with another is carried out in two parts. -/
theorem Program.exec_bind {α β : Type} (program : Program α) (next : α → Program β)
    (scene : Scene) :
    (program >>= next).exec scene =
      match program.exec scene with
      | (some value, after) => (next value).exec after
      | (none, after) => (none, after) := by
  induction program generalizing scene with
  | done value => rfl
  | perform effect rest ih =>
    rw [perform_bind, exec, exec]
    split
    · next answer after hanswer => exact ih answer after
    · rfl

end PassPipeline
