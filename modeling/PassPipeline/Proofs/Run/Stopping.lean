import PassPipeline.Proofs.Run.Lifecycle

/-!
# Runs that stop before they execute anything

A run can stop for four reasons before it has a schedule to execute: the collection fails,
there is nothing to run, the report is asked for, or no schedule can be built.  The schedule,
the results and the counters are then those of the latest execution, since a run that stops
changes nothing but what it has collected, what was observed and, by a report, the stream
(`run_stopped`).
-/

namespace PassPipeline.Site

/-- Why a run stops before it executes anything. -/
inductive Stops (site : Site) (timing : Timing) : Prop
  /-- The collection fails. -/
  | uncollected {error : PassError} {after : Site} (hcollect : site.collect = (.error error, after))
  /-- Nothing is selected, and there is no default pass. -/
  | idle {after : Site} (hcollect : site.collect = (.ok (), after))
      (hselected : after.manager.selected.isEmpty = true)
      (hdefault : after.manager.defaultPass = none)
  /-- The report is written in place of a run. -/
  | dumped {ready : Site} (hdumps : site.Dumps timing ready)
  /-- No schedule can be built. -/
  | unplanned {ready : Site} {error : PassError} (hready : site.Ready timing ready)
      (hnotOwn : ready.manager.selected.contains ready.manager.own = false)
      (hplan : ready.plan = .error error)

theorem Ready.unique {site ready other : Site} {timing : Timing}
    (hready : site.Ready timing ready) (hother : site.Ready timing other) : ready = other := by
  cases hready with
  | chosen hcollect hselected =>
      cases hother with
      | chosen hagain _ =>
          cases hcollect.symm.trans hagain
          rfl
      | byDefault hagain hempty _ =>
          cases hcollect.symm.trans hagain
          exact absurd (hselected.symm.trans hempty) nofun
  | byDefault hcollect hselected hdefault =>
      cases hother with
      | chosen hagain hsome =>
          cases hcollect.symm.trans hagain
          exact absurd (hselected.symm.trans hsome) nofun
      | byDefault hagain _ hid =>
          cases hcollect.symm.trans hagain
          cases hdefault.symm.trans hid
          rfl

theorem Ready.not_idle {site ready after : Site} {timing : Timing}
    (hready : site.Ready timing ready) (hcollect : site.collect = (.ok (), after))
    (hselected : after.manager.selected.isEmpty = true) :
    after.manager.defaultPass ≠ none := by
  cases hready with
  | chosen hagain hsome =>
      cases hcollect.symm.trans hagain
      exact absurd (hselected.symm.trans hsome) nofun
  | byDefault hagain _ hid =>
      cases hcollect.symm.trans hagain
      rw [hid]
      nofun

/-- The reasons to stop are all there are: a run without one executes a schedule. -/
theorem stops_iff (site : Site) (timing : Timing) :
    site.Stops timing ↔ ∀ ready schedule, ¬ site.Executes timing ready schedule := by
  constructor
  · intro hstops ready schedule hexecutes
    -- A run gets ready in one way, so the reason contradicts the execution.
    cases hstops with
    | uncollected hcollect =>
        have hok := hexecutes.isReady.collect_eq
        rw [hcollect] at hok
        cases hok
    | idle hcollect hselected hdefault =>
        exact hexecutes.isReady.not_idle hcollect hselected hdefault
    | dumped hdumps =>
        have hown := hdumps.own
        rw [hdumps.isReady.unique hexecutes.isReady, hexecutes.notOwn] at hown
        cases hown
    | unplanned hready _ hplan =>
        rw [hready.unique hexecutes.isReady, hexecutes.planned] at hplan
        cases hplan
  · intro hidle
    cases site.course timing with
    | uncollected hcollect _ => exact .uncollected hcollect
    | idle hcollect hselected hdefault _ => exact .idle hcollect hselected hdefault
    | dumped hdumps _ => exact .dumped hdumps
    | unplanned hready hnotOwn hplan _ => exact .unplanned hready hnotOwn hplan
    | executed hexecutes _ => exact absurd hexecutes (hidle _ _)

/-! ## The report -/

/-- The bytes of the report.  There are none if there is no report. -/
def reportBytes (site : Site) : ByteArray :=
  match site.report with
  | .ok text => text.toUTF8
  | .error _ => ByteArray.empty

/-- What a dump records is a first part of the report, and all of it if the dump succeeds. -/
theorem takes_dump (site : Site) :
    site.manager.stream.Takes site.reportBytes (site.dump.1, site.dump.2.manager.stream) := by
  rw [dump_eq, reportBytes]
  rcases site.report with error | text
  · exact Stream.takes_nothing rfl
  · exact site.manager.stream.takes_publish text

/-! ## What stays -/

variable {site : Site} {timing : Timing}

theorem Stops.frame (hstops : site.Stops timing) :
    ∃ selected dependencies stream trace,
      (site.run timing).2 =
        { manager := { site.manager with selected, dependencies, stream },
          world := { site.world with trace } } := by
  obtain ⟨selected, dependencies, trace, hcollected⟩ := site.collect_frame
  cases site.course timing with
  | uncollected hcollect hrun =>
      rw [hcollect] at hcollected
      rw [hrun, hcollected]
      exact ⟨_, _, _, _, rfl⟩
  | idle hcollect _ _ hrun =>
      rw [hcollect] at hcollected
      subst hcollected
      rw [hrun]
      exact ⟨_, _, _, _, rfl⟩
  | @dumped ready hdumps hrun =>
      obtain ⟨chosen, observed, hready⟩ := hdumps.isReady.frame
      obtain ⟨stream, after, hdump⟩ := ready.runDump_frame
      rw [hrun, hdump, hready]
      exact ⟨_, _, _, _, rfl⟩
  | unplanned hready _ _ hrun =>
      obtain ⟨chosen, observed, hready⟩ := hready.frame
      rw [hrun, hready]
      exact ⟨_, _, _, _, rfl⟩
  | executed hexecutes _ => exact absurd hexecutes ((site.stops_iff timing).mp hstops _ _)

/-- A run that stops without the report does nothing after the collection. -/
theorem Stops.silent (hstops : site.Stops timing) (hunasked : ∀ ready, ¬ site.Dumps timing ready) :
    (site.run timing).2.manager.stream = site.manager.stream ∧
      (site.run timing).2.lifecycle = site.lifecycle ++ site.inquiries := by
  obtain ⟨selected, dependencies, trace, hcollected⟩ := site.collect_frame
  have hinquiries := site.lifecycle_collect
  cases site.course timing with
  | uncollected hcollect hrun =>
      rw [hcollect] at hcollected hinquiries
      rw [hrun]
      exact ⟨by rw [hcollected], hinquiries⟩
  | idle hcollect _ _ hrun =>
      rw [hcollect] at hcollected hinquiries
      subst hcollected
      rw [hrun, lifecycle_log, lifecycle_log]
      exact ⟨rfl, hinquiries⟩
  | dumped hdumps _ => exact absurd hdumps (hunasked _)
  | unplanned hready _ _ hrun =>
      obtain ⟨chosen, observed, hframe⟩ := hready.frame
      rw [hrun]
      exact ⟨by rw [hframe], hready.lifecycle⟩
  | executed hexecutes _ => exact absurd hexecutes ((site.stops_iff timing).mp hstops _ _)

/-- A run that stops changes the selection, the dependencies, the stream and the trace, and
so leaves the record of the latest execution and the catalogue as they were.  Its calls are
the inquiries of the collection.  Only the report is written to the stream, and a flush
follows only if the report is complete. -/
theorem run_stopped (hstops : site.Stops timing) :
    (∃ selected dependencies stream trace,
      (site.run timing).2 =
        { manager := { site.manager with selected, dependencies, stream },
          world := { site.world with trace } }) ∧
    ((∀ ready, ¬ site.Dumps timing ready) →
      (site.run timing).2.manager.stream = site.manager.stream ∧
      (site.run timing).2.lifecycle = site.lifecycle ++ site.inquiries) ∧
    ∀ ready, site.Dumps timing ready →
      site.manager.stream.Takes ready.reportBytes
        (ready.dump.1, (site.run timing).2.manager.stream) ∧
      ((ready.dump.1 = .ok () ∧ (site.run timing).1 = .ok true ∧
          (site.run timing).2.lifecycle = site.lifecycle ++ site.inquiries ++ [.flush]) ∨
        ∃ halt, ready.dump.1 = .error halt ∧ (site.run timing).1 = .error halt ∧
          (site.run timing).2.lifecycle = site.lifecycle ++ site.inquiries) := by
  refine ⟨hstops.frame, hstops.silent, ?_⟩
  intro ready hdumps
  have hstream : ready.manager.stream = site.manager.stream := by
    obtain ⟨chosen, observed, hready⟩ := hdumps.isReady.frame
    rw [hready]
  obtain ⟨hdumped, houtcome⟩ := ready.runDump_outcome
  rw [hdumps.run_eq, hdumped, ← hstream, ← hdumps.isReady.lifecycle]
  exact ⟨ready.takes_dump, houtcome⟩

/-- Has executed the schedule `[2, 1]` before.  Now its own pass is selected, and the stream
has room for five bytes of the report. -/
def archived : Site where
  manager := {
    own := ⟨0⟩
    managed := (∅ : IdSet).insert ⟨0⟩ |>.insert ⟨1⟩
    results := (∅ : Results).insert ⟨2⟩ (.flag true)
    schedule := [⟨2⟩, ⟨1⟩]
    stream := .ofWriter (.limited 5)
    metrics := { runs := 1, lastScheduleLength := 2 } }
  world := {
    catalog := {
      admission := .free
      entries := (∅ : IdMap Descriptor)
        |>.insert ⟨0⟩ { Manager.registration with id := ⟨0⟩, selected := true }
        |>.insert ⟨1⟩ {
          name := "Scan", arg := "scan", id := ⟨1⟩, selected := true, changes := 7
          behaviour := { run := .done { succeeded := true } } } } }

theorem dumps_archived :
    archived.Dumps {} (archived.collect.2.log .debug .execution "selection: done" (some 0)) where
  isReady := .chosen (Prod.ext rfl rfl) (by decide)
  own := by decide

theorem run_stopped_archived :
    archived.Stops {} ∧ (archived.run {}).1 = .error (.refused Stream.stuckError) ∧
    (archived.run {}).2.manager.stream.contents = "PassM".toUTF8 ∧
    (archived.run {}).2.manager.schedule = [⟨2⟩, ⟨1⟩] ∧
    (archived.run {}).2.manager.metrics.runs = 1 ∧
    (archived.run {}).2.lifecycle = archived.inquiries := by
  have hstops : archived.Stops {} := .dumped dumps_archived
  obtain ⟨⟨selected, dependencies, stream, trace, hframe⟩, -, hdumped⟩ := run_stopped hstops
  have hresult : (archived.run {}).1 = .error (.refused Stream.stuckError) := by decide +kernel
  have hcontents : (archived.run {}).2.manager.stream.contents = "PassM".toUTF8 := by decide +kernel
  obtain ⟨-, ⟨-, hok, -⟩ | ⟨halt, -, -, hlifecycle⟩⟩ := hdumped _ dumps_archived
  · exact absurd (hresult.symm.trans hok) nofun
  · exact ⟨hstops, hresult, hcontents, by rw [hframe]; rfl, by rw [hframe]; rfl, hlifecycle⟩

end PassPipeline.Site
