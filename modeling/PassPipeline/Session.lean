import PassPipeline.Manager.Run
import PassPipeline.Script
import PassPipeline.Text.Utf8
import PassPipeline.TextPipeline

/-!
# Sessions

A session is a sequence of commands to one catalogue and to any number of managers
that share it.  Each command is answered, and what was observed while it was carried
out is told with the answer: the calls to scripted passes and their remarks, the calls
of the flush hook, and the text that the stream of the current manager took.

The current manager is the one created last, unless a command chooses another.
-/

namespace PassPipeline

/-- The state of a session. -/
structure Session where
  /-- What the managers share. -/
  world : World := {}
  /-- The scripted passes of the catalogue. -/
  scripts : IdMap Script := ∅
  /-- The managers in order of creation, without those that were given up. -/
  managers : Array (Option Manager) := #[]
  /-- The position of the current manager. -/
  current : Option Nat := none

namespace Session

/-- The parts of a script that a command replaces. -/
structure Revision where
  requires : Option (List PassId) := none
  provides : Option (List PassId) := none
  internalDeclarations : Option (List Declaration) := none
  actions : Option (List Action) := none
  verified : Option Bool := none
  changes : Option UInt64 := none

/-- The commands of a session. -/
inductive Command where
  /-- Register a scripted pass, under the given identity if the catalogue is open. -/
  | register (id : PassId) (registration : Registration) (script : Script)
  /-- Register the manager's own pass, likewise. -/
  | registerManager (id : PassId)
  | registerPipeline
  | unregister (id : PassId)
  /-- Replace parts of a script. -/
  | behave (id : PassId) (revision : Revision)
  | setSelected (id : PassId) (selected : Bool)
  | addChanges (id : PassId) (count : UInt64)
  | selectArg (arg : String)
  | clearSelection
  | findArg (arg : String)
  | findName (name : String)
  | size
  | info (id : PassId)
  | descriptors
  | isPass (id other : PassId)
  | debug (id : PassId) (pretty : Bool)
  | input (bytes : ByteArray)
  | create (settings : Settings)
  | use (index : Nat)
  | add (id : PassId)
  | defaultPass (id : PassId)
  | defaultResults (results : Results)
  | setStream (writer : Writer)
  /-- Run, and tell the calls of the flush hook if asked to. -/
  | run (showFlush : Bool)
  | collect
  | dump
  | report
  | managed
  | state
  | usage (id : PassId)
  | providers (id : PassId)
  | settings
  | metrics
  | fetch (id : PassId) (kind : Kind)
  | write (text : String)
  | flush
  /-- Give up the current manager for its results. -/
  | giveUp

/-- What a command is answered. -/
inductive Answer where
  | done
  | refused (error : PassError)
  | panicked
  | noManager
  | id (id : PassId)
  | ids (ids : List PassId)
  | found (id : Option PassId)
  | foundIds (ids : Option (List PassId))
  | truth (value : Bool)
  | text (text : String)
  | size (count : Nat)
  | pass (descriptor : Descriptor)
  | passes (descriptors : List Descriptor)
  | value (kind : Kind) (content : kind.Content)
  | usage (usage : Option Usage)
  | settings (settings : Settings)
  | metrics (metrics : Metrics)
  | results (results : Results)
  | state (manager : Manager)
  | ran (outcome : Except Halt Bool) (manager : Manager)
  | collected (outcome : Except PassError Unit) (manager : Manager)

/-- An answer with what was observed. -/
structure Observation where
  answer : Answer
  events : List String := []
  /-- The text that the stream of the current manager took. -/
  output : String := ""

/-! ## Reading the session -/

/-- The current manager. -/
def manager? (session : Session) : Option Manager :=
  match session.current with
  | none => none
  | some index => (session.managers[index]?).join

/-- Replaces the current manager. -/
def withManager (session : Session) (manager : Option Manager) : Session :=
  match session.current with
  | none => session
  | some index => { session with managers := session.managers.setIfInBounds index manager }

/-- The bytes that the stream of the current manager has taken. -/
def taken (session : Session) : ByteArray :=
  match session.manager? with
  | some manager => manager.stream.contents
  | none => ByteArray.empty

/-- The answer to an operation that has no value. -/
def ofUnit : Except PassError Unit → Answer
  | .ok () => .done
  | .error error => .refused error

/-- The answer to an operation that runs foreign code and has no value. -/
def ofHalt : Except Halt Unit → Answer
  | .ok () => .done
  | .error (.refused error) => .refused error
  | .error .panicked => .panicked

/-- The answer to an operation with a value. -/
def ofExcept {α : Type} (answer : α → Answer) : Except PassError α → Answer
  | .ok value => answer value
  | .error error => .refused error

/-! ## Commands to the catalogue -/

/-- Replaces the catalogue. -/
def withCatalog (session : Session) (catalog : Catalog) : Session :=
  { session with world := { session.world with catalog } }

/-- Registers a pass type: under the next identity in a numbered catalogue, and under
the given one in an open catalogue. -/
def enroll (session : Session) (id : PassId) (registration : Registration) :
    Except PassError (PassId × Session) :=
  match session.world.catalog.admission with
  | .numbered =>
    (session.world.catalog.register registration).map fun entered =>
      (entered.1, session.withCatalog entered.2)
  | .free => .ok (id, session.withCatalog (session.world.catalog.install id registration))

/-- Registers a scripted pass. -/
def enrollScript (session : Session) (id : PassId) (registration : Registration)
    (script : Script) : Answer × Session :=
  match session.enroll id { registration with behaviour := script.behaviour } with
  | .error error => (.refused error, session)
  | .ok (id, session) =>
    (.id id, { session with scripts := session.scripts.insert id script })

/-- Registers the manager's own pass. -/
def enrollManager (session : Session) (id : PassId) : Answer × Session :=
  match session.enroll id Manager.registration with
  | .error error => (.refused error, session)
  | .ok (id, session) => (.id id, { session with scripts := session.scripts.erase id })

/-- Registers the text pipeline. -/
def enrollPipeline (session : Session) : Answer × Session :=
  match TextPipeline.registerAll.run session.world.catalog with
  | (.ok ids, catalog) => (.ids ids.all, session.withCatalog catalog)
  | (.error error, catalog) => (.refused error, session.withCatalog catalog)

/-- Replaces the required or the provided identities among declarations. -/
def redeclare (declarations : List Declaration) (requires provides : Option (List PassId)) :
    List Declaration :=
  let required := declarations.filter fun
    | .require _ => true
    | .provide _ => false
  let provided := declarations.filter fun
    | .require _ => false
    | .provide _ => true
  ((requires.map (·.map .require)).getD required) ++ ((provides.map (·.map .provide)).getD provided)

/-- A script with parts replaced.  Whether instances are made in a way of their own for
their declarations does not change. -/
def Revision.apply (revision : Revision) (script : Script) : Script where
  declarations := redeclare script.declarations revision.requires revision.provides
  internalDeclarations := script.internalDeclarations.map fun declarations =>
    revision.internalDeclarations.getD declarations
  actions := revision.actions.getD script.actions
  verified := revision.verified.getD script.verified
  changes := revision.changes.getD script.changes

/-- Replaces parts of a script. -/
def revise (session : Session) (id : PassId) (revision : Revision) : Session :=
  match session.scripts[id]? with
  | none => session
  | some script =>
    let revised := revision.apply script
    let session := session.withCatalog
      (session.world.catalog.update id ({ · with behaviour := revised.behaviour }))
    { session with scripts := session.scripts.insert id revised }

/-- Takes a pass out of the catalogue. -/
def unregister (session : Session) (id : PassId) : Answer × Session :=
  let (present, catalog) := session.world.catalog.withdraw id
  (.truth present, session.withCatalog catalog)

/-- Carries out a change of the catalogue that may be refused. -/
def change (session : Session) (outcome : Except PassError Catalog) : Answer × Session :=
  match outcome with
  | .ok catalog => (.done, session.withCatalog catalog)
  | .error error => (.refused error, session)

/-- Selects the pass with an argument. -/
def selectArg (session : Session) (arg : String) : Answer × Session :=
  match session.world.catalog.selectArg arg with
  | .ok (id, catalog) => (.id id, session.withCatalog catalog)
  | .error error => (.refused error, session)

/-- Creates a manager. -/
def create (session : Session) (settings : Settings) : Answer × Session :=
  match Manager.create session.world settings with
  | .error error => (.refused error, session)
  | .ok (manager, world) =>
    (.id manager.own,
      { session with
        world
        managers := session.managers.push (some manager)
        current := some session.managers.size })

/-! ## Commands to the current manager -/

/-- Lets the current manager act. -/
def act (session : Session) (action : Site → Answer × Site) : Answer × Session :=
  match session.manager? with
  | none => (.noManager, session)
  | some manager =>
    let (answer, site) := action ⟨manager, session.world⟩
    (answer, { session.withManager (some site.manager) with world := site.world })

/-- Changes the current manager. -/
def adjust (session : Session) (change : Manager → Manager) : Answer × Session :=
  session.act fun site => (.done, site.update change)

/-- Asks the current manager. -/
def ask (session : Session) (answer : Site → Answer) : Answer × Session :=
  session.act fun site => (answer site, site)

/-- Puts a pass under management. -/
def add (session : Session) (id : PassId) : Answer × Session :=
  session.act fun site =>
    let (outcome, manager, world) := site.manager.add site.world id
    (ofUnit outcome, ⟨manager, world⟩)

/-- Writes to the stream of the current manager. -/
def write (session : Session) (text : String) : Answer × Session :=
  session.act fun site =>
    let (outcome, stream) := site.manager.stream.writeText text
    (ofHalt outcome, site.update ({ · with stream }))

/-- Flushes the stream of the current manager. -/
def flush (session : Session) : Answer × Session :=
  session.act fun site =>
    let (outcome, stream) := site.manager.stream.flush
    (ofUnit outcome, site.update ({ · with stream }))

/-- Gives up the current manager. -/
def giveUp (session : Session) : Answer × Session :=
  match session.manager? with
  | none => (.noManager, session)
  | some manager => (.results manager.results, session.withManager none)

/-! ## Carrying out commands -/

/-- Carries out a command, with the readings of a clock for a run. -/
def obey (session : Session) (timing : Timing) : Command → Answer × Session
  | .register id registration script => session.enrollScript id registration script
  | .registerManager id => session.enrollManager id
  | .registerPipeline => session.enrollPipeline
  | .unregister id => session.unregister id
  | .behave id revision => (.done, session.revise id revision)
  | .setSelected id selected => session.change (session.world.catalog.setSelected id selected)
  | .addChanges id count => session.change (session.world.catalog.addChanges id count)
  | .selectArg arg => session.selectArg arg
  | .clearSelection => (.done, session.withCatalog session.world.catalog.clearSelection)
  | .findArg arg => (.found (session.world.catalog.findArg arg), session)
  | .findName name => (.found (session.world.catalog.findName name), session)
  | .size => (.size session.world.catalog.size, session)
  | .info id => (ofExcept .pass (session.world.catalog.info id), session)
  | .descriptors => (.passes session.world.catalog.descriptors, session)
  | .isPass id other =>
    (ofExcept (fun pass => .truth (pass.id == other)) (session.world.catalog.info id), session)
  | .debug id pretty =>
    (ofExcept (fun pass => .text (if pretty then pass.debugPretty else pass.debug))
      (session.world.catalog.info id), session)
  | .input bytes => (.done, { session with world := { session.world with input := bytes } })
  | .create settings => session.create settings
  | .use index => (.done, { session with current := some index })
  | .add id => session.add id
  | .defaultPass id => session.adjust ({ · with defaultPass := some id })
  | .defaultResults results => session.adjust ({ · with defaultResults := results })
  | .setStream writer => session.adjust ({ · with stream := .ofWriter writer })
  | .run _ => session.act fun site =>
    let (outcome, after) := site.run timing
    (.ran outcome after.manager, after)
  | .collect => session.act fun site =>
    let (outcome, after) := site.collect
    (.collected outcome after.manager, after)
  | .dump => session.act fun site =>
    let (outcome, after) := site.dump
    (ofHalt outcome, after)
  | .report => session.ask fun site => ofExcept .text site.report
  | .managed => session.ask fun site => .ids site.manager.managed.toList
  | .state => session.ask fun site => .state site.manager
  | .usage id => session.ask fun site => .usage site.manager.dependencies.usages[id]?
  | .providers id => session.ask fun site =>
    .foundIds (site.manager.dependencies.providers[id]?.map (·.toList))
  | .settings => session.ask fun site => .settings site.manager.settings
  | .metrics => session.ask fun site => .metrics site.manager.metrics
  | .fetch id kind => session.ask fun site =>
    ofExcept (.value kind) (site.manager.results.fetch id kind)
  | .write text => session.write text
  | .flush => session.flush
  | .giveUp => session.giveUp

/-- Are the calls of the flush hook told with the answer to a command? -/
def Command.showsFlush : Command → Bool
  | .run showFlush => showFlush
  | _ => false

/-- Does a command start the output of the current manager over? -/
def Command.restartsOutput : Command → Bool
  | .setStream _ => true
  | .create _ => true
  | .use _ => true
  | _ => false

/-- The line of the transcript for an observation, if it belongs there. -/
def transcribe (session : Session) (showFlush : Bool) : Event → Option String
  | .call id name phase =>
    if session.scripts.contains id then some (name ++ ":" ++ phase.word) else none
  | .note _ name text => some (name ++ ":" ++ text)
  | .flush => if showFlush then some ":flush" else none
  | .log _ => none

/-- Carries out a command and tells what was observed. -/
def step (session : Session) (timing : Timing) (command : Command) : Observation × Session :=
  let fresh := { session with world := { session.world with trace := #[] } }
  let (answer, after) := fresh.obey timing command
  let start := if command.restartsOutput then after.taken.size else session.taken.size
  ({ answer
     events := after.world.trace.toList.filterMap
       (session.transcribe command.showsFlush)
     output := Text.Utf8.lossy (after.taken.extract start after.taken.size) },
    after)

end Session

end PassPipeline
