import PassPipeline.Proofs.Run.Effects
import PassPipeline.Proofs.Run.Steps
import PassPipeline.Proofs.Stream.Room

/-!
# Runs onto other streams

Passes and managers see of a stream only whether it refuses what is written.  So a run that is
refused nothing comes to the same onto any other stream with room for what it writes, and writes
the same there (`pours_run`).

A computation *pours* if that holds of it.  Most of what a manager does never touches its stream
(`Pours.silent`); the rest is put together from what passes write (`Pours.bind`).
-/

namespace PassPipeline

/-- A way to get at the one stream that computations write to. -/
structure Outlet (σ : Type) where
  stream : σ → Stream
  onto : σ → Stream → σ
  onto_stream : ∀ state, onto state (stream state) = state
  stream_onto : ∀ state other, stream (onto state other) = other

def Scene.outlet : Outlet Scene where
  stream scene := scene.stream
  onto scene stream := { scene with stream }
  onto_stream _ := rfl
  stream_onto _ _ := rfl

def Site.outlet : Outlet Site where
  stream site := site.manager.stream
  onto site stream := site.update ({ · with stream })
  onto_stream _ := rfl
  stream_onto _ _ := rfl

/-- The site with another stream. -/
abbrev Site.onto (site : Site) (stream : Stream) : Site := Site.outlet.onto site stream

/-! ## Computations that pour -/

namespace Outlet

variable {σ α β : Type} {outlet : Outlet σ} {state : σ}

/-- The computation writes to the stream, and comes to the same onto any other one with room for
what it writes. -/
def Pours (outlet : Outlet σ) (computation : σ → α × σ) (state : σ) : Prop :=
  ∃ written, (outlet.stream state).Received written (outlet.stream (computation state).2) ∧
    ∀ other : Stream, other.Spares written.size → ∃ later, other.Received written later ∧
      computation (outlet.onto state other) =
        ((computation state).1, outlet.onto (computation state).2 later)

theorem Pours.boundless {computation : σ → α × σ} (hpours : outlet.Pours computation state)
    (hboundless : (outlet.stream state).Boundless) :
    (outlet.stream (computation state).2).Boundless := by
  obtain ⟨written, hreceived, -⟩ := hpours
  exact hreceived.boundless hboundless

theorem Pours.silent {computation : σ → α × σ}
    (honto : ∀ other, computation (outlet.onto state other) =
      ((computation state).1, outlet.onto (computation state).2 other)) :
    outlet.Pours computation state := by
  have hstream : outlet.stream (computation state).2 = outlet.stream state := by
    have hsame := honto (outlet.stream state)
    rw [outlet.onto_stream] at hsame
    rw [hsame, outlet.stream_onto]
  refine ⟨ByteArray.empty, ?_, fun other _ => ⟨other, .refl other, honto other⟩⟩
  rw [hstream]
  exact .refl _

/-- What is done after another computation has come to `answer`. -/
theorem Pours.bind {first : σ → α × σ} {answer : α} {after : σ} {next whole : σ → β × σ}
    (hfirst : outlet.Pours first state) (hstep : first state = (answer, after))
    (hnext : outlet.Pours next after)
    (hwhole : ∀ {here there}, first here = (answer, there) → whole here = next there) :
    outlet.Pours whole state := by
  obtain ⟨written, hreceived, hother⟩ := hfirst
  obtain ⟨more, hmore, hagain⟩ := hnext
  rw [hstep] at hreceived
  simp only [Pours, hwhole hstep]
  refine ⟨written ++ more, hreceived.trans hmore, fun other hspares => ?_⟩
  rw [ByteArray.size_append] at hspares
  obtain ⟨middle, hmiddle, hsame⟩ := hother other (hspares.mono (Nat.le_add_right ..))
  rw [hstep] at hsame
  have hspared := hmiddle.spares hspares (Nat.le_add_right ..)
  rw [Nat.add_sub_cancel_left] at hspared
  obtain ⟨later, hlater, heq⟩ := hagain middle hspared
  exact ⟨later, hmiddle.trans hlater, (hwhole hsame).trans heq⟩

/-- What is done after a change that the stream has no part in. -/
theorem Pours.after (computation : σ → α × σ) (change : σ → σ)
    (honto : ∀ other, change (outlet.onto state other) = outlet.onto (change state) other)
    (hpours : outlet.Pours computation (change state)) :
    outlet.Pours (fun state => computation (change state)) state := by
  have hchange : outlet.Pours (fun state => ((), change state)) state :=
    .silent fun other => congrArg (Prod.mk ()) (honto other)
  exact hchange.bind rfl hpours fun hstep => congrArg computation (Prod.mk.inj hstep).2

theorem Pours.of_eq {computation whole : σ → α × σ} (hpours : outlet.Pours computation state)
    (hsame : ∀ other, whole (outlet.onto state other) = computation (outlet.onto state other)) :
    outlet.Pours whole state := by
  have hstart : whole state = computation state := by
    rw [← outlet.onto_stream state, hsame]
  rw [Pours, hstart]
  simp only [hsame]
  exact hpours

end Outlet

open Outlet (Pours)

/-! ## Programs -/

theorem Scene.perform_write {scene : Scene} {text : String} {stream : Stream}
    (hwrite : scene.stream.writeText text = (.ok (), stream)) :
    scene.perform (.write text) = (some (.ok ()), outlet.onto scene stream) := by
  rw [hears_write, hwrite]
  rfl

theorem Scene.pours_perform {scene : Scene} (hboundless : scene.stream.Boundless)
    (effect : Effect) : outlet.Pours (fun scene => scene.perform effect) scene := by
  cases effect with
  | write text =>
    obtain ⟨stream, hwrite, hstream⟩ := (hboundless _).writeText (Nat.le_refl text.toUTF8.size)
    have hperform := perform_write hwrite
    simp only [Pours, hperform]
    refine ⟨text.toUTF8, hstream, fun other hspares => ?_⟩
    obtain ⟨later, hlater, hreceived⟩ := hspares.writeText (Nat.le_refl _)
    exact ⟨later, hreceived, perform_write hlater⟩
  | mark id selected =>
    refine .silent fun other => ?_
    have hcatalog : (outlet.onto scene other).world.catalog = scene.world.catalog := rfl
    simp only [perform, hcatalog]
    rcases scene.world.catalog.setSelected id selected with error | catalog
    · rfl
    · rfl
  | credit id count =>
    refine .silent fun other => ?_
    have hcatalog : (outlet.onto scene other).world.catalog = scene.world.catalog := rfl
    simp only [perform, hcatalog]
    rcases scene.world.catalog.addChanges id count with error | catalog
    · rfl
    · rfl
  | _ => exact .silent fun _ => rfl

theorem Program.pours_exec {α : Type} (program : Program α) {scene : Scene}
    (hboundless : scene.stream.Boundless) : Scene.outlet.Pours program.exec scene := by
  induction program generalizing scene with
  | done value => exact .silent fun _ => rfl
  | perform effect next ih =>
    have hperform := scene.pours_perform hboundless effect
    have hafter := hperform.boundless hboundless
    rcases hstep : scene.perform effect with ⟨_ | answer, after⟩
    · have hdied : Scene.outlet.Pours (fun after => ((none : Option α), after)) after :=
        .silent fun _ => rfl
      exact hperform.bind hstep hdied fun hstep => by rw [exec, hstep]
    · rw [hstep] at hafter
      exact hperform.bind hstep (ih answer hafter) fun hstep => by rw [exec, hstep]

namespace Site

variable {site : Site}

/-! ## Slots -/

/-- Runs a fresh instance of a pass up to its report. -/
def runPass (site : Site) (pass : Descriptor) : Option Report × Site :=
  ((pass.behaviour.run.exec (site.entrance pass)).1,
    (site.prepare pass).afterScene (pass.behaviour.run.exec (site.entrance pass)).2)

theorem pours_runPass (hboundless : site.manager.stream.Boundless) (pass : Descriptor) :
    outlet.Pours (fun site => site.runPass pass) site := by
  have hentrance : ∀ other, (site.onto other).entrance pass =
      Scene.outlet.onto (site.entrance pass) other := fun _ => rfl
  obtain ⟨written, hreceived, hother⟩ :=
    @Program.pours_exec _ pass.behaviour.run (site.entrance pass) hboundless
  refine ⟨written, hreceived, fun other hspares => ?_⟩
  obtain ⟨later, hlater, hexec⟩ := hother other hspares
  refine ⟨later, hlater, ?_⟩
  simp only [runPass, hentrance, hexec]
  rfl

theorem count_onto (site : Site) (change : Metrics → Metrics) (other : Stream) :
    (site.onto other).count change = (site.count change).onto other := by
  have hsettings : (site.onto other).manager.settings = site.manager.settings := rfl
  rw [count, count, hsettings]
  cases site.manager.settings.recordMetrics <;> rfl

theorem abandon_onto (site : Site) (slot : Nat) (pass : Descriptor) (stage : String)
    (other : Stream) :
    (site.onto other).abandon slot pass stage =
      ((site.abandon slot pass stage).1, (site.abandon slot pass stage).2.onto other) := by
  let warned := site.log .warn .execution
    ("'" ++ pass.name ++ "': " ++ stage ++ " failed, aborting schedule at slot " ++ toString slot)
    none
  exact congrArg (fun site => (SlotOutcome.failed, site.record .flush))
    (warned.count_onto (·.recordFailure pass.name) other)

theorem complete_onto (site : Site) (timing : Timing) (slot : Nat) (pass : Descriptor)
    (changes : UInt64) (other : Stream) :
    (site.onto other).complete timing slot pass changes =
      ((site.complete timing slot pass changes).1,
        (site.complete timing slot pass changes).2.onto other) := by
  let asked := site.call pass .changes
  let credited := { asked with
    world := { asked.world with
      catalog := asked.world.catalog.update pass.id (·.addChanges changes) } }
  exact congrArg (Prod.mk SlotOutcome.completed)
    (credited.count_onto (·.recordExecution pass.name (timing.slot slot) (timing.finished slot))
      other)

theorem conclude_onto (site : Site) (timing : Timing) (slot : Nat) (pass : Descriptor)
    (report : Report) (other : Stream) :
    (site.onto other).conclude timing slot pass report =
      ((site.conclude timing slot pass report).1,
        (site.conclude timing slot pass report).2.onto other) := by
  let done := site.log .debug .execution ("'" ++ pass.name ++ "': done") (some (timing.slot slot))
  let verified := (done.call pass .verify).call pass .tearDown
  rw [conclude, conclude]
  cases report.succeeded with
  | false => exact (done.call pass .tearDown).abandon_onto slot pass "run" other
  | true =>
    cases report.verified with
    | false => exact verified.abandon_onto slot pass "verify" other
    | true => exact verified.complete_onto timing slot pass report.changes other

theorem pours_invoke (hboundless : site.manager.stream.Boundless) (timing : Timing) (slot : Nat)
    (pass : Descriptor) : outlet.Pours (fun site => site.invoke timing slot pass) site := by
  have hrun := pours_runPass hboundless pass
  rcases hstep : site.runPass pass with ⟨_ | report, after⟩
  · have hdied : outlet.Pours (fun after => (SlotOutcome.halted .panicked, after)) after :=
      .silent fun _ => rfl
    refine hrun.bind hstep hdied fun {here there} hstep => ?_
    obtain ⟨hreport, rfl⟩ := Prod.mk.inj hstep
    rw [invoke_of_panicked timing slot (Prod.ext hreport rfl)]
    rfl
  · have hconclude : outlet.Pours (fun after => after.conclude timing slot pass report) after :=
      .silent fun other => after.conclude_onto timing slot pass report other
    refine hrun.bind hstep hconclude fun {here there} hstep => ?_
    obtain ⟨hreport, rfl⟩ := Prod.mk.inj hstep
    have hexec : pass.behaviour.run.exec ((here.prepare pass).scene pass) =
        (some report, (pass.behaviour.run.exec (here.entrance pass)).2) := Prod.ext hreport rfl
    rw [invoke, hexec]

theorem pours_executeSlot (hboundless : site.manager.stream.Boundless) (timing : Timing)
    (slot : Nat) (id : PassId) :
    outlet.Pours (fun site => site.executeSlot timing slot id) site := by
  have hinfo : ∀ other, (site.onto other).world.catalog.info id = site.world.catalog.info id :=
    fun _ => rfl
  have hresults : ∀ other, (site.onto other).manager.results = site.manager.results :=
    fun _ => rfl
  rcases hpass : site.world.catalog.info id with error | pass
  · have hmissing : outlet.Pours
        (fun site => (SlotOutcome.halted (.refused error), site)) site := .silent fun _ => rfl
    exact hmissing.of_eq fun other => by rw [executeSlot, hinfo, hpass]
  · by_cases hskips : (slot = 0 && site.manager.results.contains id) = true
    · have hskip : outlet.Pours (fun site => site.skip pass) site := .silent fun _ => rfl
      exact hskip.of_eq fun other => by
        simp only [executeSlot, hinfo, hpass, hresults, hskips, if_true]
    · refine (pours_invoke hboundless timing slot pass).of_eq fun other => ?_
      simp only [executeSlot, hinfo, hpass, hresults, hskips, Bool.false_eq_true, if_false]

/-! ## Executions -/

/-- The induction is on the slots that remain. -/
theorem pours_executeFrom (timing : Timing) (slot : Nat) (ids : List PassId)
    (hboundless : site.manager.stream.Boundless) :
    outlet.Pours (fun site => executeFrom timing slot ids site) site := by
  induction ids generalizing slot site with
  | nil => exact .silent fun _ => rfl
  | cons id rest ih =>
    have hslot := pours_executeSlot hboundless timing slot id
    have hafter := hslot.boundless hboundless
    have hended : ∀ (result : Except Halt Bool) after,
        outlet.Pours (fun after => (result, after)) after := fun _ _ => .silent fun _ => rfl
    rcases hstep : site.executeSlot timing slot id with ⟨outcome, after⟩
    rw [hstep] at hafter
    cases outcome with
    | halted halt =>
      exact hslot.bind hstep (hended (.error halt) after) fun hstep => by rw [executeFrom, hstep]
    | failed =>
      exact hslot.bind hstep (hended (.ok false) after) fun hstep => by rw [executeFrom, hstep]
    | skipped =>
      exact hslot.bind hstep (ih (slot + 1) hafter) fun hstep => by rw [executeFrom, hstep]
    | completed =>
      exact hslot.bind hstep (ih (slot + 1) hafter) fun hstep => by rw [executeFrom, hstep]

/-- An execution onto another stream arrives where it would arrive otherwise. -/
theorem Arrives.pours {timing : Timing} {schedule : List PassId} {start here : Site} {slot : Nat}
    (harrives : Arrives timing schedule start slot here)
    (hboundless : start.manager.stream.Boundless) :
    ∃ written, start.manager.stream.Received written here.manager.stream ∧
      ∀ other : Stream, other.Spares written.size → ∃ later, other.Received written later ∧
        Arrives timing schedule (start.onto other) slot (here.onto later) := by
  have hpours := pours_executeFrom timing 0 (schedule.take slot) hboundless
  simp only [Pours, harrives.run_eq] at hpours
  obtain ⟨written, hreceived, hother⟩ := hpours
  refine ⟨written, hreceived, fun other hspares => ?_⟩
  obtain ⟨later, hlater, hrun⟩ := hother other hspares
  exact ⟨later, hlater, harrives.within, hrun⟩

theorem pours_execute (hboundless : site.manager.stream.Boundless) (timing : Timing)
    (schedule : List PassId) : outlet.Pours (fun site => site.execute timing schedule) site := by
  have hslots : outlet.Pours
      (fun site => executeFrom timing 0 schedule (site.commit timing schedule)) site :=
    .after _ (·.commit timing schedule) (fun _ => rfl)
      (pours_executeFrom timing 0 schedule hboundless)
  have hended : ∀ (result : Except Halt Bool) after,
      outlet.Pours (fun after => (result, after)) after := fun _ _ => .silent fun _ => rfl
  rcases hstep : executeFrom timing 0 schedule (site.commit timing schedule) with
    ⟨halt | ⟨_ | _⟩, after⟩
  · exact hslots.bind hstep (hended (.error halt) after) fun hstep => by rw [execute, hstep]
  · exact hslots.bind hstep (hended (.ok false) after) fun hstep => by rw [execute, hstep]
  · have hfinished : outlet.Pours
        (fun after => ((.ok true : Except Halt Bool),
          (after.log .debug .execution "running passes: done" (some timing.whole)).record .flush))
        after := .silent fun _ => rfl
    exact hslots.bind hstep hfinished fun hstep => by rw [execute, hstep]

/-! ## Runs -/

theorem collect_onto (site : Site) (other : Stream) :
    (site.onto other).collect = (site.collect.1, site.collect.2.onto other) := by
  have haside : Manager.Aside fun manager : Manager => { manager with stream := other } :=
    ⟨fun _ => rfl, fun _ => rfl, fun _ => rfl, fun _ _ => rfl, fun _ _ => rfl⟩
  exact collect_update haside site

theorem Ready.onto {timing : Timing} {ready : Site} (hready : site.Ready timing ready)
    (other : Stream) : (site.onto other).Ready timing (ready.onto other) := by
  cases hready with
  | @chosen after hcollect hselected =>
    have hother : (site.onto other).collect = (.ok (), after.onto other) := by
      rw [collect_onto, hcollect]
    exact .chosen hother hselected
  | @byDefault after id hcollect hselected hdefault =>
    have hother : (site.onto other).collect = (.ok (), after.onto other) := by
      rw [collect_onto, hcollect]
    exact .byDefault hother hselected hdefault

theorem Executes.onto {timing : Timing} {ready : Site} {schedule : List PassId}
    (hexecutes : site.Executes timing ready schedule) (other : Stream) :
    (site.onto other).Executes timing (ready.onto other) schedule :=
  ⟨hexecutes.isReady.onto other, hexecutes.notOwn, hexecutes.planned⟩

theorem pours_dump (hboundless : site.manager.stream.Boundless) :
    outlet.Pours (fun site => site.dump) site := by
  have hreport : ∀ other, (site.onto other).report = site.report := fun _ => rfl
  rcases htext : site.report with error | text
  · have hrefused : outlet.Pours
        (fun site => ((.error (.refused error) : Except Halt Unit), site)) site :=
      .silent fun _ => rfl
    exact hrefused.of_eq fun other => by rw [dump_eq, hreport, htext]
  · have hdump : ∀ {other later : Stream}, other.publish text = (.ok (), later) →
        (site.onto other).dump = (.ok (), site.onto later) := by
      intro other later hpublish
      rw [dump_eq, hreport, htext]
      have hstream : (site.onto other).manager.stream = other := rfl
      dsimp only
      rw [hstream, hpublish]
      rfl
    obtain ⟨stream, hpublish, hstream⟩ := (hboundless _).publish (Nat.le_refl text.toUTF8.size)
    have hwritten : site.dump = (.ok (), site.onto stream) := hdump hpublish
    simp only [Pours, hwritten]
    refine ⟨text.toUTF8, hstream, fun other hspares => ?_⟩
    obtain ⟨later, hlater, hreceived⟩ := hspares.publish (Nat.le_refl _)
    exact ⟨later, hreceived, hdump hlater⟩

theorem pours_runDump (hboundless : site.manager.stream.Boundless) :
    outlet.Pours (fun site => site.runDump) site := by
  have hdump := pours_dump hboundless
  -- A dump leaves the dependencies, which the announcement counts.
  have hdependencies : ∀ {here there : Site} {result : Except Halt Unit},
      here.dump = (result, there) → here.manager.dependencies = there.manager.dependencies := by
    intro here there result hstep
    obtain ⟨stream, hframe⟩ := here.dump_frame
    rw [hstep] at hframe
    exact (congrArg (·.manager.dependencies) hframe).symm
  let announced : Site → Site := fun site => site.log .info .execution
    ("Dumping pass dependency graph for " ++ toString site.manager.dependencies.usages.size ++
      " passes") none
  rcases hstep : site.dump with ⟨halt | ⟨⟩, after⟩
  · have hrefused : outlet.Pours
        (fun after => ((.error halt : Except Halt Bool), announced after)) after :=
      .silent fun _ => rfl
    exact hdump.bind hstep hrefused fun hstep => by
      rw [runDump, dump_log, hstep, hdependencies hstep]
  · have hwritten : outlet.Pours
        (fun after => ((.ok true : Except Halt Bool), (announced after).record .flush)) after :=
      .silent fun _ => rfl
    exact hdump.bind hstep hwritten fun hstep => by
      rw [runDump, dump_log, hstep, hdependencies hstep]

theorem pours_runSelected (hboundless : site.manager.stream.Boundless) (timing : Timing) :
    outlet.Pours (fun site => site.runSelected timing) site := by
  have hplan : ∀ other, (site.onto other).plan = site.plan := fun _ => rfl
  have hselected : ∀ other, (site.onto other).manager.selected = site.manager.selected :=
    fun _ => rfl
  have hown : ∀ other, (site.onto other).manager.own = site.manager.own := fun _ => rfl
  by_cases hdumps : site.manager.selected.contains site.manager.own = true
  · refine (pours_runDump hboundless).of_eq fun other => ?_
    rw [runSelected, hselected, hown, if_pos hdumps]
  · rcases hschedule : site.plan with error | schedule
    · have hrefused : outlet.Pours
          (fun site => ((.error (.refused error) : Except Halt Bool), site)) site :=
        .silent fun _ => rfl
      refine hrefused.of_eq fun other => ?_
      rw [runSelected, hselected, hown, if_neg hdumps, hplan, hschedule]
    · refine (pours_execute hboundless timing schedule).of_eq fun other => ?_
      rw [runSelected, hselected, hown, if_neg hdumps, hplan, hschedule]

theorem pours_runDefault (hboundless : site.manager.stream.Boundless) (timing : Timing) :
    outlet.Pours (fun site => site.runDefault timing) site := by
  have hdefault : ∀ other, (site.onto other).manager.defaultPass = site.manager.defaultPass :=
    fun _ => rfl
  rcases hpass : site.manager.defaultPass with _ | id
  · have hnothing : outlet.Pours (fun site => ((.ok false : Except Halt Bool),
        site.log .error .execution "no pass was selected" none)) site := .silent fun _ => rfl
    exact hnothing.of_eq fun other => by rw [runDefault, hdefault, hpass]
  · let chosen : Site → Site := fun site => site.update fun manager =>
      { manager with selected := manager.selected.insert id }
    have hchosen : outlet.Pours (fun site => (chosen site).runSelected timing) site :=
      .after _ chosen (fun _ => rfl) (@pours_runSelected (chosen site) hboundless timing)
    exact hchosen.of_eq fun other => by rw [runDefault, hdefault, hpass]

/-- A run pours, whatever its passes do. -/
theorem pours_run (hboundless : site.manager.stream.Boundless) (timing : Timing) :
    outlet.Pours (fun site => site.run timing) site := by
  have hcollect : outlet.Pours (fun site => site.collect) site := .silent site.collect_onto
  have hafter := hcollect.boundless hboundless
  let told : Site → Site := fun site =>
    site.log .debug .execution "selection: done" (some timing.selection)
  rcases hstep : site.collect with ⟨error | ⟨⟩, after⟩
  · have hrefused : outlet.Pours
        (fun site => ((.error (.refused error) : Except Halt Bool), site)) after :=
      .silent fun _ => rfl
    exact hcollect.bind hstep hrefused fun hstep => by rw [run, hstep]
  · rw [hstep] at hafter
    have hdefault : outlet.Pours (fun site => (told site).runDefault timing) after :=
      .after _ told (fun _ => rfl) (@pours_runDefault (told after) hafter timing)
    have hselected : outlet.Pours (fun site => (told site).runSelected timing) after :=
      .after _ told (fun _ => rfl) (@pours_runSelected (told after) hafter timing)
    have hnext : outlet.Pours (fun site => if site.manager.selected.isEmpty then
        (told site).runDefault timing else (told site).runSelected timing) after := by
      by_cases hempty : after.manager.selected.isEmpty = true
      · exact hdefault.of_eq fun other => if_pos hempty
      · exact hselected.of_eq fun other => if_neg hempty
    exact hcollect.bind hstep hnext fun hstep => by
      rw [run, hstep]
      rfl

end Site

end PassPipeline
