import PassPipeline.Proofs.Run.Course

/-!
# What a slot comes to

The *lifecycle* of a run consists of the calls to passes and of the flushes that are
observed.  Remarks and messages are not part of it, so that the program of a pass leaves it
as it is (`Program.lifecycle_exec`): what a pass does in its run cannot be mistaken for what
its manager does.

A slot comes to one of five things, each with its own lifecycle, and `SlotCourse` tells when
it comes to which.  What is said about whole executions opens a slot only by `slotCourse`,
or by `GoesOn.cases` where the execution goes on.
-/

namespace PassPipeline

/-! ## The lifecycle -/

/-- Calls and flushes belong to the lifecycle of a run. -/
def Event.isLifecycle : Event → Bool
  | .call _ _ _ | .flush => true
  | .note _ _ _ | .log _ => false

/-- The calls and the flushes that were observed so far. -/
def World.lifecycle (world : World) : List Event :=
  world.trace.toList.filter Event.isLifecycle

/-- The calls and the flushes that were observed so far. -/
def Site.lifecycle (site : Site) : List Event := site.world.lifecycle

theorem World.lifecycle_record (world : World) (event : Event) :
    (world.record event).lifecycle = world.lifecycle ++ [event].filter Event.isLifecycle := by
  simp [lifecycle, record]

/-- No effect of a running pass is a call or a flush. -/
theorem Scene.lifecycle_perform (scene : Scene) (effect : Effect) :
    (scene.perform effect).2.world.lifecycle = scene.world.lifecycle := by
  cases effect with
  | write text =>
      rw [perform]
      split <;> rfl
  | mark id selected =>
      rw [perform]
      split <;> rfl
  | credit id count =>
      rw [perform]
      split <;> rfl
  | note text =>
      rw [perform, note, World.lifecycle_record]
      exact List.append_nil _
  | log level text =>
      rw [perform, World.log, World.lifecycle_record]
      exact List.append_nil _
  | _ => rfl

theorem Program.lifecycle_exec {α : Type} (program : Program α) (scene : Scene) :
    (program.exec scene).2.world.lifecycle = scene.world.lifecycle := by
  induction program generalizing scene with
  | done value => rfl
  | perform effect next ih =>
      have hperform := scene.lifecycle_perform effect
      rw [exec]
      rcases hscene : scene.perform effect with ⟨_ | answer, after⟩ <;> rw [hscene] at hperform
      · exact hperform
      · exact (ih answer after).trans hperform

/-- A call to the pass. -/
def Descriptor.call (pass : Descriptor) (phase : Phase) : Event :=
  .call pass.id pass.name phase

namespace Site

@[simp]
theorem lifecycle_log (site : Site) (level : Level) (topic : Topic) (text : String)
    (took : Option Duration) : (site.log level topic text took).lifecycle = site.lifecycle :=
  (World.lifecycle_record ..).trans (List.append_nil _)

@[simp]
theorem lifecycle_call (site : Site) (pass : Descriptor) (phase : Phase) :
    (site.call pass phase).lifecycle = site.lifecycle ++ [pass.call phase] :=
  World.lifecycle_record ..

@[simp]
theorem lifecycle_flush (site : Site) :
    (site.record .flush).lifecycle = site.lifecycle ++ [.flush] :=
  World.lifecycle_record ..

@[simp]
theorem lifecycle_update (site : Site) (change : Manager → Manager) :
    (site.update change).lifecycle = site.lifecycle := rfl

@[simp]
theorem lifecycle_count (site : Site) (change : Metrics → Metrics) :
    (site.count change).lifecycle = site.lifecycle := by
  unfold count
  split <;> rfl

end Site

/-! ## The lifecycles of slots -/

namespace Descriptor

/-- A fresh instance is taken up to its run. -/
def opening (pass : Descriptor) : List Event :=
  [pass.call .construct, pass.call .setStream, pass.call .setUp, .flush, pass.call .run]

/-- A slot is completed. -/
def block (pass : Descriptor) : List Event :=
  pass.opening ++ [pass.call .verify, pass.call .tearDown, pass.call .changes]

/-- A slot fails with that report: only a run that succeeded is verified. -/
def failing (pass : Descriptor) (report : Report) : List Event :=
  pass.opening ++ (if report.succeeded then [pass.call .verify] else []) ++
    [pass.call .tearDown, .flush]

end Descriptor

namespace Site

theorem lifecycle_prepare (site : Site) (pass : Descriptor) :
    (site.prepare pass).lifecycle = site.lifecycle ++ pass.opening := by
  simp [prepare, Descriptor.opening]

theorem lifecycle_complete (site : Site) (timing : Timing) (slot : Nat) (pass : Descriptor)
    (changes : UInt64) :
    (site.complete timing slot pass changes).2.lifecycle =
      site.lifecycle ++ [pass.call .changes] := by
  rw [complete, lifecycle_count]
  exact site.lifecycle_call pass .changes

/-- What a fresh instance of the pass reports when its run has ended; there is no report
if the pass dies. -/
def reported (here : Site) (pass : Descriptor) : Option Report :=
  (pass.behaviour.run.exec ((here.prepare pass).scene pass)).1

/-- The slot is the leading one, and there is a value for its pass. -/
def Satisfied (here : Site) (slot : Nat) (id : PassId) : Prop :=
  slot = 0 ∧ here.manager.results.contains id = true

/-- What the execution of a slot comes to, and the lifecycle of the slot. -/
inductive SlotCourse (here : Site) (slot : Nat) (id : PassId) : SlotOutcome → List Event → Prop
  /-- The pass is not in the catalogue. -/
  | missing (hfind : here.world.catalog.find? id = none) :
      SlotCourse here slot id (.halted (.refused (.unknownPass id))) []
  /-- The slot need not be executed. -/
  | skipped {pass : Descriptor} (hfind : here.world.catalog.find? id = some pass)
      (hsatisfied : here.Satisfied slot id) :
      SlotCourse here slot id .skipped []
  /-- The pass dies in its run. -/
  | panicked {pass : Descriptor} (hfind : here.world.catalog.find? id = some pass)
      (hsatisfied : ¬ here.Satisfied slot id) (hreported : here.reported pass = none) :
      SlotCourse here slot id (.halted .panicked) pass.opening
  /-- The run or the check after it fails. -/
  | failed {pass : Descriptor} {report : Report}
      (hfind : here.world.catalog.find? id = some pass)
      (hsatisfied : ¬ here.Satisfied slot id) (hreported : here.reported pass = some report)
      (hfailed : (report.succeeded && report.verified) = false) :
      SlotCourse here slot id .failed (pass.failing report)
  /-- The run and the check after it succeed. -/
  | completed {pass : Descriptor} {report : Report}
      (hfind : here.world.catalog.find? id = some pass)
      (hsatisfied : ¬ here.Satisfied slot id) (hreported : here.reported pass = some report)
      (hsucceeded : report.succeeded = true) (hverified : report.verified = true) :
      SlotCourse here slot id .completed pass.block

/-- A run that has ended is followed by its check if it succeeded, and the instance is taken
down in any case. -/
theorem conclude_cases (site : Site) (timing : Timing) (slot : Nat) (pass : Descriptor)
    (report : Report) :
    ((report.succeeded && report.verified) = true ∧
      (site.conclude timing slot pass report).1 = .completed ∧
      (site.conclude timing slot pass report).2.lifecycle =
        site.lifecycle ++ [pass.call .verify, pass.call .tearDown, pass.call .changes]) ∨
    ((report.succeeded && report.verified) = false ∧
      (site.conclude timing slot pass report).1 = .failed ∧
      (site.conclude timing slot pass report).2.lifecycle =
        site.lifecycle ++ (if report.succeeded then [pass.call .verify] else []) ++
          [pass.call .tearDown, .flush]) := by
  cases hsucceeded : report.succeeded with
  | false =>
      refine Or.inr ⟨rfl, ?_⟩
      simp [conclude, hsucceeded, abandon]
  | true =>
      cases hverified : report.verified with
      | false =>
          refine Or.inr ⟨rfl, ?_⟩
          simp [conclude, hsucceeded, hverified, abandon]
      | true =>
          refine Or.inl ⟨rfl, ?_⟩
          simp only [conclude, hsucceeded, hverified, if_true, lifecycle_complete]
          simp [complete]

theorem invoke_course {here : Site} {slot : Nat} {id : PassId} {pass : Descriptor}
    (timing : Timing) (hfind : here.world.catalog.find? id = some pass)
    (hsatisfied : ¬ here.Satisfied slot id) :
    ∃ events, here.SlotCourse slot id (here.invoke timing slot pass).1 events ∧
      (here.invoke timing slot pass).2.lifecycle = here.lifecycle ++ events := by
  have hopening := here.lifecycle_prepare pass
  -- Whatever the program does, the opening is still the last that was called.
  have hkept := pass.behaviour.run.lifecycle_exec ((here.prepare pass).scene pass)
  rcases hexec : pass.behaviour.run.exec ((here.prepare pass).scene pass) with
    ⟨_ | report, scene⟩
  · have hreported : here.reported pass = none := by rw [reported, hexec]
    refine ⟨pass.opening, ?_⟩
    rw [invoke, hexec]
    rw [hexec] at hkept
    exact ⟨.panicked hfind hsatisfied hreported, hkept.trans hopening⟩
  · have hreported : here.reported pass = some report := by rw [reported, hexec]
    rw [hexec] at hkept
    have hran : ((here.prepare pass).afterScene scene).lifecycle =
        here.lifecycle ++ pass.opening := hkept.trans hopening
    rw [invoke, hexec]
    rcases ((here.prepare pass).afterScene scene).conclude_cases timing slot pass report with
      ⟨hgood, houtcome, hlifecycle⟩ | ⟨hbad, houtcome, hlifecycle⟩
    · obtain ⟨hsucceeded, hverified⟩ := Bool.and_eq_true_iff.mp hgood
      refine ⟨pass.block, ?_, ?_⟩
      · rw [houtcome]
        exact .completed hfind hsatisfied hreported hsucceeded hverified
      · rw [hlifecycle, hran, Descriptor.block, List.append_assoc]
    · refine ⟨pass.failing report, ?_, ?_⟩
      · rw [houtcome]
        exact .failed hfind hsatisfied hreported hbad
      · rw [hlifecycle, hran, Descriptor.failing, List.append_assoc, List.append_assoc,
          List.append_assoc]

/-- What a slot comes to. -/
theorem slotCourse (here : Site) (timing : Timing) (slot : Nat) (id : PassId) :
    ∃ events, here.SlotCourse slot id (here.executeSlot timing slot id).1 events ∧
      (here.executeSlot timing slot id).2.lifecycle = here.lifecycle ++ events := by
  rw [executeSlot]
  split
  · next error hinfo =>
    obtain ⟨hfind, rfl⟩ := Catalog.info_eq_error_iff.mp hinfo
    exact ⟨[], .missing hfind, (List.append_nil _).symm⟩
  · next pass hinfo =>
    have hfind := Catalog.info_eq_ok_iff.mp hinfo
    by_cases hsatisfied : here.Satisfied slot id
    · rw [if_pos (by simpa [Satisfied] using hsatisfied)]
      refine ⟨[], .skipped hfind hsatisfied, ?_⟩
      simp [skip]
    · rw [if_neg (by simpa [Satisfied] using hsatisfied)]
      exact invoke_course timing hfind hsatisfied

/-! ## From slot to slot -/

variable {timing : Timing} {schedule : List PassId} {start : Site}

/-- The slot is completed: run and check succeed, and then the pass is taken down. -/
structure Completes (found : Site) (timing : Timing) (slot : Nat) (id : PassId)
    (pass : Descriptor) : Prop where
  resolved : found.world.catalog.find? id = some pass
  unsatisfied : ¬ found.Satisfied slot id
  outcome : (found.executeSlot timing slot id).1 = .completed
  succeeded : ∃ report, found.reported pass = some report ∧ report.succeeded = true ∧
    report.verified = true
  lifecycle : (found.executeSlot timing slot id).2.lifecycle = found.lifecycle ++ pass.block

/-- The slot is skipped: nothing is called. -/
structure Skips (found : Site) (timing : Timing) (slot : Nat) (id : PassId) : Prop where
  resolved : ∃ pass, found.world.catalog.find? id = some pass
  satisfied : found.Satisfied slot id
  outcome : (found.executeSlot timing slot id).1 = .skipped
  lifecycle : (found.executeSlot timing slot id).2.lifecycle = found.lifecycle

/-- An execution goes on only from slots that are completed or skipped. -/
theorem GoesOn.cases {found : Site} {slot : Nat} {id : PassId}
    (hgoesOn : found.GoesOn timing slot id) :
    (∃ pass, found.Completes timing slot id pass) ∨ found.Skips timing slot id := by
  obtain ⟨events, hcourse, hlifecycle⟩ := found.slotCourse timing slot id
  rw [GoesOn] at hgoesOn
  generalize houtcome : (found.executeSlot timing slot id).1 = outcome at hcourse hgoesOn
  cases hcourse with
  | completed hfind hsatisfied hreported hsucceeded hverified =>
      exact Or.inl ⟨_, hfind, hsatisfied, houtcome, ⟨_, hreported, hsucceeded, hverified⟩,
        hlifecycle⟩
  | skipped hfind hsatisfied =>
      rw [List.append_nil] at hlifecycle
      exact Or.inr ⟨⟨_, hfind⟩, hsatisfied, houtcome, hlifecycle⟩
  | missing _ => simp at hgoesOn
  | panicked _ _ _ => simp at hgoesOn
  | failed _ _ _ _ => simp at hgoesOn

/-- Only the value of the leading slot is looked up, and it is looked up among the results
with which the execution begins. -/
theorem Arrives.satisfied_iff {slot : Nat} {here : Site} {id : PassId}
    (harrives : Arrives timing schedule start slot here) :
    here.Satisfied slot id ↔ slot = 0 ∧ start.manager.results.contains id = true := by
  constructor
  · rintro ⟨rfl, hvalue⟩
    rw [harrives.unique arrives_zero] at hvalue
    exact ⟨rfl, hvalue⟩
  · rintro ⟨rfl, hvalue⟩
    rw [← harrives.unique arrives_zero] at hvalue
    exact ⟨rfl, hvalue⟩

end Site

end PassPipeline
