import PassPipeline.Proofs.Run.Stopping
import PassPipeline.Proofs.Run.Threading
import PassPipeline.Proofs.Stream.Calls

/-!
# The history of a stream

Whoever holds a clone of a stream can use it: the caller, the manager that writes its report, and
the passes that the manager runs.  All that a manager does to its stream are uses of it, and they
can be told from what the operation is (`Site.Asks`): the report is written and then flushed, and
a run that executes a schedule writes what its passes write, in their order
(`Site.Asks.stream_eq`).  So the history of a stream, whatever managers took part in it, is a list
of uses (`Stream.Serves.after_eq`), and its record is faithful to them (`Stream.record_faithful`).
-/

namespace PassPipeline

/-- The use of the stream that the effect is, if it is one. -/
def Effect.use? : Effect → Option Stream.Use
  | .write text => some (.write text)
  | _ => none

namespace Stream

/-- The uses that the stream is put to if a report is published. -/
inductive Publishes (stream : Stream) : Except PassError String → List Use → Prop
  | nothing {error : PassError} : Publishes stream (.error error) []
  | cut {text : String} {halt : Halt} (hwrite : (stream.writeText text).1 = .error halt) :
      Publishes stream (.ok text) [.write text]
  | whole {text : String} (hwrite : (stream.writeText text).1 = .ok ()) :
      Publishes stream (.ok text) [.write text, .flush]

theorem exists_publishes (stream : Stream) (report : Except PassError String) :
    ∃ uses, stream.Publishes report uses := by
  rcases report with error | text
  · exact ⟨_, .nothing⟩
  · rcases hwrite : (stream.writeText text).1 with halt | ⟨⟩
    · exact ⟨_, .cut hwrite⟩
    · exact ⟨_, .whole hwrite⟩

theorem publish_of_cut {stream : Stream} {text : String} {halt : Halt}
    (hwrite : (stream.writeText text).1 = .error halt) :
    stream.publish text = stream.writeText text := by
  rcases hwritten : stream.writeText text with ⟨other | ⟨⟩, written⟩ <;> rw [hwritten] at hwrite
  · rw [publish, hwritten]
  · cases hwrite

theorem publish_of_written {stream : Stream} {text : String}
    (hwrite : (stream.writeText text).1 = .ok ()) :
    (stream.publish text).2 = (stream.writeText text).2.flush.2 := by
  rcases hwritten : stream.writeText text with ⟨other | ⟨⟩, written⟩ <;> rw [hwritten] at hwrite
  · cases hwrite
  · rw [publish, hwritten]
    dsimp only
    rcases written.flush with ⟨error | ⟨⟩, flushed⟩ <;> rfl

theorem after_effects (stream : Stream) (effects : List Effect) :
    effects.foldl (fun here effect => here.after effect.use?.toList) stream =
      stream.after (effects.filterMap Effect.use?) := by
  induction effects generalizing stream with
  | nil => rfl
  | cons effect rest ih =>
    rw [List.foldl_cons, ih]
    cases effect <;> rfl

end Stream

namespace Site

variable {site ready : Site} {timing : Timing} {uses : List Stream.Use}

/-! ## The uses of an operation -/

/-- The operation puts the manager's stream to the uses. -/
inductive Asks (site : Site) : Manager.Operation → List Stream.Use → Prop
  | add (id : PassId) : Asks site (.add id) []
  | setDefaultPass (id : PassId) : Asks site (.setDefaultPass id) []
  | setDefaultResults (results : Results) : Asks site (.setDefaultResults results) []
  | collect : Asks site .collect []
  | dump {uses : List Stream.Use} (hpublishes : site.manager.stream.Publishes site.report uses) :
      Asks site .dump uses
  | stopped {timing : Timing} (hstops : site.Stops timing)
      (hunasked : ∀ ready, ¬ site.Dumps timing ready) : Asks site (.run timing) []
  | dumped {timing : Timing} {ready : Site} {uses : List Stream.Use}
      (hdumps : site.Dumps timing ready)
      (hpublishes : site.manager.stream.Publishes ready.report uses) : Asks site (.run timing) uses
  | executed {timing : Timing} {ready : Site} {schedule : List PassId}
      {effects : Nat → List Effect} (hexecutes : site.Executes timing ready schedule)
      (hperforms : Performs timing schedule (ready.commit timing schedule) effects) :
      Asks site (.run timing)
        (((List.range schedule.length).flatMap effects).filterMap Effect.use?)

/-- There are such uses for every operation that leaves the manager its stream. -/
theorem exists_asks (site : Site) {operation : Manager.Operation}
    (hkeeps : ∀ stream, operation ≠ .setStream stream) : ∃ uses, site.Asks operation uses := by
  cases operation with
  | add id => exact ⟨_, .add id⟩
  | setDefaultPass id => exact ⟨_, .setDefaultPass id⟩
  | setDefaultResults results => exact ⟨_, .setDefaultResults results⟩
  | setStream stream => exact absurd rfl (hkeeps stream)
  | collect => exact ⟨_, .collect⟩
  | dump =>
    obtain ⟨uses, hpublishes⟩ := site.manager.stream.exists_publishes site.report
    exact ⟨uses, .dump hpublishes⟩
  | run timing =>
    by_cases hdumps : ∃ ready, site.Dumps timing ready
    · obtain ⟨ready, hdumps⟩ := hdumps
      obtain ⟨uses, hpublishes⟩ := site.manager.stream.exists_publishes ready.report
      exact ⟨uses, .dumped hdumps hpublishes⟩
    · by_cases hexecutes : ∃ ready schedule, site.Executes timing ready schedule
      · obtain ⟨ready, schedule, hexecutes⟩ := hexecutes
        exact ⟨_, .executed hexecutes (performs timing schedule (ready.commit timing schedule))⟩
      · have hstops : site.Stops timing := (site.stops_iff timing).mpr
          fun ready schedule hready => hexecutes ⟨ready, schedule, hready⟩
        exact ⟨_, .stopped hstops fun ready hready => hdumps ⟨ready, hready⟩⟩

theorem tracks_stream :
    Tracks (fun _ stream => stream) fun here effect => here.after effect.use?.toList := by
  intro scene effect
  cases effect with
  | write text =>
    rw [Scene.hears_write]
    rfl
  | mark id selected =>
    rw [Scene.perform]
    split <;> rfl
  | credit id count =>
    rw [Scene.perform]
    split <;> rfl
  | _ => rfl

theorem stream_dump (hpublishes : site.manager.stream.Publishes site.report uses) :
    site.dump.2.manager.stream = site.manager.stream.after uses := by
  rw [dump_eq]
  generalize site.report = report at hpublishes
  cases hpublishes with
  | nothing => rfl
  | cut hwrite => exact congrArg Prod.snd (Stream.publish_of_cut hwrite)
  | whole hwrite => exact Stream.publish_of_written hwrite

theorem stream_collect (site : Site) : site.collect.2.manager.stream = site.manager.stream := by
  obtain ⟨selected, dependencies, trace, hframe⟩ := site.collect_frame
  rw [hframe]

/-- Whatever an operation does to the stream, it does by using it. -/
theorem Asks.stream_eq {operation : Manager.Operation} (hasks : site.Asks operation uses) :
    (site.operate operation).manager.stream = site.manager.stream.after uses := by
  cases hasks with
  | add id =>
    rw [operate, Manager.add]
    split
    · split <;> rfl
    · rfl
  | setDefaultPass id => rfl
  | setDefaultResults results => rfl
  | collect => exact site.stream_collect
  | dump hpublishes => exact stream_dump hpublishes
  | stopped hstops hunasked => exact (hstops.silent hunasked).1
  | @dumped timing ready _ hdumps hpublishes =>
    have hstream := hdumps.isReady.stream_eq
    rw [← hstream] at hpublishes ⊢
    rw [operate, hdumps.run_eq, ready.runDump_outcome.1]
    exact stream_dump hpublishes
  | executed hexecutes hperforms =>
    rw [hperforms.eq_effectsAt, ← Stream.after_effects]
    exact tracks_stream.run hexecutes

end Site

namespace Stream

/-! ## Histories -/

/-- What can become of a stream, and the uses that it has been put to. -/
inductive Serves (stream : Stream) : List Use → Stream → Prop
  | nothing : Serves stream [] stream
  | used {uses : List Use} {here : Stream} (hserves : Serves stream uses here) (use : Use) :
      Serves stream (uses ++ [use]) (here.ask use).2
  /-- A manager that holds a clone does something. -/
  | managed {uses more : List Use} {site : Site} {operation : Manager.Operation}
      (hserves : Serves stream uses site.manager.stream) (hasks : site.Asks operation more) :
      Serves stream (uses ++ more) (site.operate operation).manager.stream

theorem Serves.after_eq {stream after : Stream} {uses : List Use}
    (hserves : stream.Serves uses after) : after = stream.after uses := by
  induction hserves with
  | nothing => rfl
  | used _ use ih =>
    rw [after_append, ← ih]
    rfl
  | managed _ hasks ih => rw [hasks.stream_eq, ih, after_append]

/-- Whatever its writer does, and whoever uses it how often, a stream has recorded, in the order of
the calls, the whole of every text that was written well, a first part of every text that was
refused or of which the writer died, and nothing else; it refuses to hear a call just if the
writer has died before.  The buffer shows what was written to it.  All that managers do to their
streams is among these uses, and a pass hears what the stream answers. -/
theorem record_faithful :
    (∀ (writer : Writer) (uses : List Use) (after : Stream),
      (ofWriter writer).Serves uses after →
        (ofWriter writer).Faithful ((ofWriter writer).calls uses) after) ∧
    (∀ (uses : List Use) (after : Stream), buffer.Serves uses after →
      (∀ call ∈ buffer.calls uses, call.answer = .ok ()) ∧
        Text.Utf8.lossy after.contents = String.join (uses.map Use.text)) ∧
    (∀ (site : Site) (operation : Manager.Operation),
      (∀ stream, operation ≠ .setStream stream) → ∃ uses, site.Asks operation uses) ∧
    ∀ (scene : Scene) (text : String),
      scene.perform (.write text) = (Scene.heard (scene.stream.ask (.write text)).1,
        { scene with stream := (scene.stream.ask (.write text)).2 }) := by
  refine ⟨?_, ?_, fun site operation hkeeps => site.exists_asks hkeeps, Scene.hears_write⟩
  · intro writer uses after hserves
    rw [hserves.after_eq]
    exact faithful_calls rfl uses
  · intro uses after hserves
    rw [hserves.after_eq]
    exact ⟨(boundless_buffer.received_after uses).1, shown_buffer uses⟩

/-- Takes one byte and dies of the next. -/
def brittle : Writer where
  offer progress _ := if progress.taken = 0 then .took 1 else .died

/-- Runs pass `1` by default, which writes a text of three bytes. -/
def frail : Site where
  manager := { Manager.feeder with stream := .ofWriter brittle }
  world := Manager.fed

/-- The run of `frail` when it is ready. -/
def frailReady : Site :=
  (frail.collect.2.log .debug .execution "selection: done" (some 0)).update
    fun manager => { manager with selected := manager.selected.insert ⟨1⟩ }

theorem executes_frail : frail.Executes {} frailReady [⟨1⟩] where
  isReady := .byDefault (Prod.ext (by decide) rfl) (by decide) rfl
  notOwn := by decide
  planned := by decide +kernel

theorem asks_frail : frail.Asks (.run {}) [.write "fed"] := by
  have hasks := Site.Asks.executed executes_frail (Site.performs {} [⟨1⟩] _)
  have huses : ((List.range [(⟨1⟩ : PassId)].length).flatMap
      (Site.effectsAt {} [⟨1⟩] (frailReady.commit {} [⟨1⟩]))).filterMap Effect.use? =
        [.write "fed"] := by decide +kernel
  rwa [huses] at hasks

/-- A run dies of the second byte, and then not even the empty text is heard. -/
theorem record_faithful_poisoned :
    ∃ after, (ofWriter brittle).Serves [.write "fed", .write ""] after ∧
      (ofWriter brittle).Faithful ((ofWriter brittle).calls [.write "fed", .write ""]) after ∧
      after.contents = "f".toUTF8 ∧ (frail.run {}).1 = .error .panicked ∧
      ((frail.run {}).2.manager.stream.ask (.write "")).1 = .error (.refused poisonError) := by
  have hserves : (ofWriter brittle).Serves ([] ++ [.write "fed"] ++ [.write ""])
      ((frail.operate (.run {})).manager.stream.ask (.write "")).2 :=
    .used (.managed .nothing asks_frail) (.write "")
  refine ⟨_, hserves, record_faithful.1 brittle _ _ hserves, ?_, by decide +kernel, ?_⟩
  · rw [hserves.after_eq]
    decide +kernel
  · rw [ask_refused_iff]
    decide +kernel

end Stream

end PassPipeline
