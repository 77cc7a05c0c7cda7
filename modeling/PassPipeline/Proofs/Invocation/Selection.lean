import PassPipeline.Libraries.Standard
import PassPipeline.Proofs.Invocation.Launch
import PassPipeline.Proofs.Run.Deaths

/-!
# What is selected is a set

The flags of the command line and the list of the configuration are one selection, of which only
the set of its passes matters.  Of two launches that name the same passes and have everything
else in common, either both are hindered, or both reach the run with the same catalogue and with
managers that are the same (`Arranged.alike`).  The runs then differ in the clock alone.

The manager selects what the launch names, or the default pass if that is nothing
(`Arranged.mem_selected`).  A pass cannot be met twice, since what the selection has left behind
are flags.
-/

namespace PassPipeline.Invocation

open TextPipeline

/-- What the run of the manager leaves behind for the invocation. -/
theorem run_run (timing : Timing) (line : CommandLine) (site : Site) :
    ((run timing line site.manager).run { world := site.world }).1 =
        (site.run timing).1.mapError Failure.halted ∧
      ((run timing line site.manager).run { world := site.world }).2.output =
        (site.run timing).2.manager.stream.contents ∧
      (line.metrics = false →
        ((run timing line site.manager).run { world := site.world }).2.metrics = none) := by
  rw [run, run_bind, run_get]
  dsimp only
  rcases hrun : site.run timing with ⟨halt | succeeded, after⟩
  · exact ⟨rfl, rfl, fun _ => rfl⟩
  · obtain ⟨input, config, metrics, verbose, selected⟩ := line
    cases metrics with
    | false => cases succeeded <;> exact ⟨rfl, rfl, fun _ => rfl⟩
    | true => cases succeeded <;> exact ⟨rfl, rfl, nofun⟩

namespace Launch

variable {libraries : Libraries} {launch first second : Launch libraries} {site other : Site}
  {id : PassId}

/-! ## Launches that reach the run -/

theorem Reaches.arranged (hreaches : launch.Reaches site) :
    launch.Ready ∧ launch.Arranged site := by
  rcases launch.arrange_cases with
    ⟨hready, other, harranged, hother⟩ | ⟨failure, world, -, -, hfails⟩
  · obtain ⟨hmanager, hworld⟩ := Prod.mk.inj (hreaches.symm.trans hother)
    have hsame : site = other := by
      cases site
      cases other
      cases hmanager
      cases hworld
      rfl
    exact ⟨hready, hsame ▸ harranged⟩
  · cases hreaches.symm.trans hfails

theorem ready_iff : launch.Ready ↔ ∃ site, launch.Reaches site := by
  constructor
  · intro hready
    rcases launch.arrange_cases with ⟨-, site, -, hreaches⟩ | ⟨failure, world, hhindrance, -, -⟩
    · exact ⟨site, hreaches⟩
    · exact absurd hready hhindrance.not_ready
  · rintro ⟨site, hreaches⟩
    exact hreaches.arranged.1

theorem Reaches.ended_eq (hreaches : launch.Reaches site) :
    launch.ended = (run launch.timing launch.line site.manager).run { world := site.world } := by
  rw [ended, carryOut_eq, run_bind, hreaches]

theorem Arranged.hosted (harranged : launch.Arranged site) : launch.ids.Hosted site := by
  obtain ⟨own, hfurnished⟩ := launch.exists_furnished
  have hretains := launch.catalog.retains_marking launch.args
  have hown : own = site.manager.own :=
    Option.some.inj (hfurnished.findArg_own.symm.trans harranged.own)
  refine ⟨?_, ?_, harranged.managed⟩
  · rw [harranged.catalog]
    exact hfurnished.entered.retained hretains
  · rw [harranged.catalog, ← hown]
    exact hretains _ _ hfurnished.offersOwn

theorem Arranged.flagged_iff (harranged : launch.Arranged site) :
    site.Flagged id ↔ launch.Names id := by
  obtain ⟨own, hfurnished⟩ := launch.exists_furnished
  have hown : own = site.manager.own :=
    Option.some.inj (hfurnished.findArg_own.symm.trans harranged.own)
  rw [Site.Flagged, harranged.managed, harranged.catalog, Catalog.find?_marking, names_iff]
  constructor
  · rintro ⟨-, marked, hmarked, hselected⟩
    obtain ⟨pass, hfind, rfl⟩ := Option.map_eq_some_iff.mp hmarked
    rcases (pass.selected_marked launch.args).mp hselected with harg | hbefore
    · exact ⟨pass, hfind, harg⟩
    · cases (hfurnished.unselected hfind).symm.trans hbefore
  · rintro ⟨pass, hfind, harg⟩
    refine ⟨hown ▸ hfurnished.known hfind, pass.marked launch.args, ?_, ?_⟩
    · rw [hfind]
      rfl
    · exact (pass.selected_marked launch.args).mpr (.inl harg)

theorem Arranged.mem_selected (harranged : launch.Arranged site) (timing : Timing) (id : PassId) :
    id ∈ (site.run timing).2.manager.selected ↔
      launch.Names id ∨
        ((∀ other, ¬ launch.Names other) ∧ launch.defaultPass = some id) := by
  rw [Site.mem_selected_run harranged.hosted.collect_eq, harranged.defaultPass,
    harranged.flagged_iff]
  simp only [harranged.flagged_iff]

theorem Arranged.boundless (harranged : launch.Arranged site) :
    site.manager.stream.Boundless := by
  rw [harranged.stream]
  exact Stream.boundless_buffer

/-! ## Outcomes -/

theorem exists_hindrance (hnot : ¬ launch.Ready) :
    ∃ failure world, launch.Hindrance failure ∧ world.Quiet ∧
      launch.ended = (.error failure, { world }) := by
  rcases launch.arrange_cases with ⟨hready, -⟩ | ⟨failure, world, hhindrance, hquiet, hfails⟩
  · exact absurd hready hnot
  · refine ⟨failure, world, hhindrance, hquiet, ?_⟩
    rw [ended, carryOut_eq, run_bind, hfails]

/-- A launch that does not reach the run prints nothing. -/
theorem outcome_of_not_ready (hnot : ¬ launch.Ready) :
    launch.outcome.status = 1 ∧ launch.outcome.output = ByteArray.empty ∧
      launch.outcome.metrics = none := by
  obtain ⟨failure, world, hhindrance, -, hended⟩ := exists_hindrance hnot
  rw [outcome_eq, hended]
  exact ⟨hhindrance.status_eq, rfl, rfl⟩

theorem Reaches.output_eq (hreaches : launch.Reaches site) :
    launch.outcome.output = (site.run launch.timing).2.manager.stream.contents := by
  rw [outcome_eq, hreaches.ended_eq]
  exact (run_run ..).2.1

theorem Reaches.metrics_eq (hreaches : launch.Reaches site) (hplain : launch.line.metrics = false) :
    launch.outcome.metrics = none := by
  rw [outcome_eq, hreaches.ended_eq]
  exact (run_run ..).2.2 hplain

/-- The program knows no pass that dies by itself. -/
theorem Arranged.lasting (harranged : launch.Arranged site) : site.world.catalog.Lasting := by
  obtain ⟨own, hfurnished⟩ := launch.exists_furnished
  rw [harranged.catalog]
  intro id marked hmarked
  rw [Catalog.find?_marking] at hmarked
  obtain ⟨pass, hfind, rfl⟩ := Option.map_eq_some_iff.mp hmarked
  have hbehaviour : (pass.marked launch.args).behaviour = pass.behaviour :=
    congrArg Registration.behaviour (pass.toRegistration_marked launch.args)
  rw [hbehaviour]
  rcases hfurnished.known hfind with rfl | hid
  · rw [hfurnished.offersOwn.run_eq hfind]
    trivial
  · exact hfurnished.entered.lasts hid hfind

/-- No pass dies by itself or of what it prints, so there are two statuses. -/
theorem Reaches.status_eq (hreaches : launch.Reaches site) :
    launch.outcome.status = if (site.run launch.timing).1 = .ok true then 0 else 1 := by
  have halive := Site.run_ne_panicked hreaches.arranged.2.lasting hreaches.arranged.2.boundless
    launch.timing
  rw [outcome_eq, Invocation.outcome, hreaches.ended_eq, (run_run ..).1]
  generalize (site.run launch.timing).1 = result at halive
  rcases result with (error | ⟨⟩) | (_ | _)
  · rfl
  · exact absurd rfl halive
  · rfl
  · rfl

/-! ## Two launches -/

/-- The launches have in common all that matters beside the selection. -/
structure Agrees (first second : Launch libraries) : Prop where
  source : second.source = first.source
  input : second.surroundings.input = first.surroundings.input
  manager : second.configuration.manager = first.configuration.manager
  defaultPass : second.configuration.defaultPass = first.configuration.defaultPass

theorem catalog_eq (first second : Launch libraries) :
    second.ids = first.ids ∧ second.catalog = first.catalog := by
  have hsame := second.registers.symm.trans first.registers
  cases first
  cases second
  cases hsame
  exact ⟨rfl, rfl⟩

theorem Agrees.ready (hagrees : first.Agrees second) (hready : first.Ready)
    (hregistered : second.Registered) : second.Ready := by
  refine ⟨hregistered, fun arg harg => ?_, fun reason => ?_⟩
  · rw [(catalog_eq first second).2]
    exact hready.defaults arg (hagrees.defaultPass ▸ harg)
  · rw [hagrees.source]
    exact hready.reads reason

theorem Agrees.symm (hagrees : first.Agrees second) : second.Agrees first :=
  ⟨hagrees.source.symm, hagrees.input.symm, hagrees.manager.symm, hagrees.defaultPass.symm⟩

theorem Arranged.alike (hfirst : first.Arranged site) (hagrees : first.Agrees second)
    (hsecond : second.Arranged other) (hnames : ∀ id, first.Names id ↔ second.Names id) :
    Site.Alike .plain site other := by
  obtain ⟨hids, hcatalog⟩ := catalog_eq first second
  have hown : other.manager.own = site.manager.own := by
    have hfound := hsecond.own
    rw [hcatalog, hfirst.own] at hfound
    exact (Option.some.inj hfound).symm
  have hmarking : second.catalog.marking second.args = first.catalog.marking first.args := by
    rw [hcatalog]
    refine Catalog.marking_congr fun id pass hfind => ?_
    have hsame := hnames id
    simp only [names_iff, hcatalog, hfind, Option.some_inj] at hsame
    simpa using hsame.symm
  constructor
  · exact hown
  · rw [hsecond.settings, hfirst.settings, hagrees.manager]
  · refine Std.ExtTreeSet.ext_mem fun id => ?_
    rw [hsecond.managed, hfirst.managed, hown, hids]
  · rw [hsecond.defaultPass, hfirst.defaultPass, Launch.defaultPass, Launch.defaultPass,
      hagrees.defaultPass, hcatalog]
  · rw [hsecond.defaultResults, hfirst.defaultResults, hids, hagrees.source]
  · rw [hsecond.stream, hfirst.stream]
  · rw [Rewording.catalog_plain, hsecond.catalog, hfirst.catalog, hmarking]
  · rw [hsecond.input, hfirst.input, hagrees.input]

/-- The launches print the same and have the same status. -/
structure Matches (first second : Launch libraries) : Prop where
  output : second.outcome.output = first.outcome.output
  status : second.outcome.status = first.outcome.status
  metrics : first.line.metrics = false → second.line.metrics = false →
    second.outcome.metrics = first.outcome.metrics

theorem Agrees.matches (hagrees : first.Agrees second) (hfirst : first.Registered)
    (hsecond : second.Registered) (hnames : ∀ id, first.Names id ↔ second.Names id) :
    first.Matches second := by
  have hready : first.Ready ↔ second.Ready :=
    ⟨fun hready => hagrees.ready hready hsecond, fun hready => hagrees.symm.ready hready hfirst⟩
  by_cases hreaches : first.Ready
  · obtain ⟨site, hsite⟩ := ready_iff.mp hreaches
    obtain ⟨other, hother⟩ := ready_iff.mp (hready.mp hreaches)
    have halike := hsite.arranged.2.alike hagrees hother.arranged.2 hnames
    obtain ⟨hresult, hmirror⟩ := halike.run first.timing second.timing
    constructor
    · rw [hother.output_eq, hsite.output_eq, hmirror.stream]
    · rw [hother.status_eq, hsite.status_eq, hresult]
    · intro hplain hplain'
      rw [hother.metrics_eq hplain', hsite.metrics_eq hplain]
  · obtain ⟨hstatus, houtput, hmetrics⟩ := outcome_of_not_ready hreaches
    obtain ⟨hstatus', houtput', hmetrics'⟩ := outcome_of_not_ready (mt hready.mpr hreaches)
    exact ⟨houtput'.trans houtput.symm, hstatus'.trans hstatus.symm,
      fun _ _ => hmetrics'.trans hmetrics.symm⟩

/-! ## The selection -/

/-- What becomes of a launch whose manager runs. -/
structure Runs (launch : Launch libraries) (site : Site) : Prop where
  output : launch.outcome.output = (site.run launch.timing).2.manager.stream.contents
  succeeds_iff : launch.outcome.status = 0 ↔ (site.run launch.timing).1 = .ok true
  fails : (site.run launch.timing).1 ≠ .ok true → launch.outcome.status = 1
  /-- The default pass takes the place of an empty selection, and of no other. -/
  selected : ∀ id, id ∈ (site.run launch.timing).2.manager.selected ↔
    launch.Names id ∨ ((∀ other, ¬ launch.Names other) ∧ launch.defaultPass = some id)
  idle : (∀ id, ¬ launch.Names id) → launch.configuration.defaultPass = none →
    (site.run launch.timing).1 = .ok false
  /-- The report is all that is printed, and no pass is run. -/
  dumps : Manager.ownArg ∈ launch.args → ∃ report, site.collect.2.report = .ok report ∧
    launch.outcome.output = report.toUTF8 ∧ (site.run launch.timing).1 = .ok true ∧
    ∀ id name, .call id name .run ∉ (site.run launch.timing).2.lifecycle

/-- What becomes of a launch that is to select what is not registered. -/
structure Refused (launch : Launch libraries) : Prop where
  failure : ∃ arg ∈ launch.configuration.select, launch.catalog.findArg arg = none ∧
    launch.ended.1 = .error (.unknownPass arg (.unknownArg arg))
  status : launch.outcome.status = 1
  output : launch.outcome.output = ByteArray.empty
  uncalled : launch.ended.2.world.lifecycle = []
  unreached : ∀ site, ¬ launch.Reaches site

theorem Arranged.run_idle (harranged : launch.Arranged site) (timing : Timing)
    (hnone : ∀ id, ¬ launch.Names id) (hdefault : launch.configuration.defaultPass = none) :
    (site.run timing).1 = .ok false := by
  have hcollect := harranged.hosted.collect_eq
  have hselected : site.collect.2.manager.selected.isEmpty = true := by
    rw [Std.ExtTreeSet.isEmpty_iff]
    refine Std.ExtTreeSet.ext_mem fun id => ?_
    rw [Site.mem_selected_of_collected hcollect, harranged.flagged_iff]
    simpa using hnone id
  have hkept : site.collect.2.manager.defaultPass = none := by
    obtain ⟨selected, dependencies, trace, hframe⟩ := site.collect_frame
    rw [hframe]
    show site.manager.defaultPass = none
    rw [harranged.defaultPass, Launch.defaultPass, hdefault]
    rfl
  rw [Site.run_of_idle timing (Prod.ext hcollect rfl) hselected hkept]

theorem Arranged.run_dumps (harranged : launch.Arranged site) (timing : Timing)
    (hargs : Manager.ownArg ∈ launch.args) :
    ∃ report, site.collect.2.report = .ok report ∧ (site.run timing).1 = .ok true ∧
      (site.run timing).2.manager.stream.contents = report.toUTF8 ∧
      ∀ id name, .call id name .run ∉ (site.run timing).2.lifecycle := by
  have hflagged : site.Flagged site.manager.own :=
    harranged.flagged_iff.mpr ⟨Manager.ownArg, hargs, harranged.own⟩
  obtain ⟨report, ready, hreport, hdumps, hok, hcontents⟩ :=
    harranged.hosted.run_report hflagged harranged.boundless timing
  have hbefore : site.manager.stream.contents = ByteArray.empty := by
    rw [harranged.stream]
    rfl
  rw [hbefore, ByteArray.empty_append] at hcontents
  exact ⟨report, hreport, hok, hcontents,
    hdumps.run_notMem_lifecycle harranged.quiet.lifecycle_eq⟩

theorem Reaches.runs (hreaches : launch.Reaches site) : launch.Runs site := by
  have harranged := hreaches.arranged.2
  have hstatus := hreaches.status_eq
  refine ⟨hreaches.output_eq, ?_, fun hfails => ?_, harranged.mem_selected launch.timing,
    harranged.run_idle launch.timing, fun hargs => ?_⟩
  · rw [hstatus]
    split
    · next hok => simp [hok]
    · next hfails => simp [hfails]
  · rw [hstatus, if_neg hfails]
  · obtain ⟨report, hreport, hok, hcontents, huncalled⟩ := harranged.run_dumps launch.timing hargs
    exact ⟨report, hreport, hreaches.output_eq.trans hcontents, hok, huncalled⟩

theorem refused_of_unknown (hunknown : ∃ arg ∈ launch.configuration.select,
    launch.catalog.findArg arg = none) : launch.Refused := by
  have hunregistered : ¬ launch.Registered := by
    intro hregistered
    obtain ⟨arg, harg, hnone⟩ := hunknown
    obtain ⟨id, hfound⟩ := hregistered arg harg
    cases hnone.symm.trans hfound
  have hnot : ¬ launch.Ready := fun hready => hunregistered hready.registered
  obtain ⟨own, hfurnished⟩ := launch.exists_furnished
  obtain ⟨failure, world, hhindrance, hquiet, hended⟩ := exists_hindrance hnot
  obtain ⟨hstatus, houtput, -⟩ := outcome_of_not_ready hnot
  refine ⟨?_, hstatus, houtput, ?_, fun site hreaches => hnot (ready_iff.mpr ⟨site, hreaches⟩)⟩
  · rw [hended]
    cases hhindrance with
    | @unknownPass arg harg hnone =>
      refine ⟨arg, ?_, hnone, rfl⟩
      -- The flags are registered, so the argument comes from the configuration.
      rcases List.mem_append.mp harg with hflag | hselect
      · obtain ⟨id, hfound⟩ :=
          exists_findArg_of_parse hfurnished.orderly launch.parses arg hflag
        cases hnone.symm.trans hfound
      · exact hselect
    | unknownDefault hregistered _ _ => exact absurd hregistered hunregistered
    | unreadableInput hregistered _ => exact absurd hregistered hunregistered
  · rw [hended]
    exact hquiet.lifecycle_eq

/-- The flags of the command line and the list of the configuration are one selection.  Launches
that name the same passes, in whatever order and however often, print the same and have the same
status.  A launch gets as far as the run unless it is hindered; its manager then selects what is
named, or the default pass if nothing is named, and writes the report instead if that is asked
for.  A launch is refused before any pass is called if its configuration selects an argument that
no pass has. -/
theorem selection_as_set (launch : Launch libraries) :
    (∀ other : Launch libraries, launch.Agrees other → launch.Registered → other.Registered →
      (∀ id, launch.Names id ↔ other.Names id) → launch.Matches other) ∧
    (launch.Ready ↔ ∃ site, launch.Reaches site) ∧
    (∀ site, launch.Reaches site → launch.Runs site) ∧
    ((∃ arg ∈ launch.configuration.select, launch.catalog.findArg arg = none) →
      launch.Refused) :=
  ⟨fun _ hagrees hregistered hregistered' hnames =>
      hagrees.matches hregistered hregistered' hnames,
    ready_iff, fun _ hreaches => hreaches.runs, refused_of_unknown⟩

/-- The name of an input file, which is no text. -/
def page : OsText := ⟨#[0xFF]⟩

/-- An input file and three configurations, of which one selects a pass that there is not. -/
def desk : Surroundings where
  entry path :=
    if path = page then .file "a b a\nc\n".toUTF8
    else if path = "once.toml".toUTF8 then .file "select = [\"report\"]".toUTF8
    else if path = "twice.toml".toUTF8 then
      .file "select = [\"emit\", \"report\", \"emit\"]".toUTF8
    else if path = "stray.toml".toUTF8 then .file "select = [\"emit\", \"shout\"]".toUTF8
    else .missing

theorem catalog?_workshop : catalog? = .ok (workshopIds, workshopCatalog) := by
  have hown : ({} : Catalog).register Manager.registration = .ok (⟨0⟩, workshopBase) := by
    have hfree : ({} : Catalog).conflict? Manager.registration = none := by decide
    rw [Catalog.register, hfree]
    rfl
  rw [catalog?, hown]
  dsimp only [bind, Except.bind]
  rw [register_workshop]
  rfl

/-- The flag and the configuration have one pass each. -/
def once : Launch .standard where
  surroundings := desk
  words := ["--emit".toUTF8, page, "--config=once.toml".toUTF8]
  ids := workshopIds
  catalog := workshopCatalog
  line := { input := some page, config := some "once.toml", selected := ["emit"] }
  configuration := { select := ["report"] }
  registers := catalog?_workshop
  parses := by decide +kernel
  loads := ⟨"once.toml".toUTF8, by decide +kernel, by decide +kernel⟩

/-- The flags have both passes, and the configuration has them again. -/
def twice : Launch .standard where
  surroundings := desk
  words := ["--report".toUTF8, "--config".toUTF8, "twice.toml".toUTF8, "-e".toUTF8, page]
  ids := workshopIds
  catalog := workshopCatalog
  line := { input := some page, config := some "twice.toml", selected := ["emit", "report"] }
  configuration := { select := ["emit", "report", "emit"] }
  registers := catalog?_workshop
  parses := by decide +kernel
  loads := ⟨"twice.toml".toUTF8, by decide +kernel, by decide +kernel⟩

/-- The report is asked for along with the words. -/
def listing : Launch .standard where
  surroundings := desk
  words := ["-e".toUTF8, "--pm-dump".toUTF8, "--config".toUTF8, "none.toml".toUTF8]
  ids := workshopIds
  catalog := workshopCatalog
  line := { config := some "none.toml", selected := ["pm-dump", "emit"] }
  configuration := {}
  registers := catalog?_workshop
  parses := by decide +kernel
  loads := ⟨"none.toml".toUTF8, by decide +kernel, by decide +kernel⟩

def stray : Launch .standard where
  surroundings := desk
  words := ["--stats".toUTF8, "--config".toUTF8, "stray.toml".toUTF8]
  ids := workshopIds
  catalog := workshopCatalog
  line := { config := some "stray.toml", selected := ["stats"] }
  configuration := { select := ["emit", "shout"] }
  registers := catalog?_workshop
  parses := by decide +kernel
  loads := ⟨"stray.toml".toUTF8, by decide +kernel, by decide +kernel⟩

theorem selection_as_set_desk :
    once.outcome.output = "lines: 2\nwords: 4\nchars: 8\ndistinct: 3\na\nb\na\nc\n".toUTF8 ∧
    once.Matches twice ∧
    (∃ site, listing.Reaches site ∧ listing.Runs site ∧
      ∃ report, site.collect.2.report = .ok report ∧
        listing.outcome.output = report.toUTF8) ∧
    stray.Refused := by
  have hfound : ∀ arg ∈ ["emit", "report"], (workshopCatalog.findArg arg).isSome = true := by
    decide +kernel
  have honce : once.Registered := fun arg harg =>
    Option.isSome_iff_exists.mp (hfound arg (List.mem_cons_of_mem _ harg))
  have htwice : twice.Registered := by
    intro arg harg
    have hmem : ∀ arg ∈ twice.configuration.select, arg ∈ ["emit", "report"] := by decide
    exact Option.isSome_iff_exists.mp (hfound arg (hmem arg harg))
  have hnames : ∀ id, once.Names id ↔ twice.Names id := by
    have hargs : ∀ arg, arg ∈ once.args ↔ arg ∈ twice.args := by
      simp [args, once, twice]
      grind
    exact fun id => exists_congr fun arg => and_congr_left fun _ => hargs arg
  obtain ⟨hmatches, -⟩ := once.selection_as_set
  obtain ⟨-, hready, hruns, -⟩ := listing.selection_as_set
  obtain ⟨-, -, -, hrefused⟩ := stray.selection_as_set
  have hlisting : listing.Ready := by
    refine ⟨?_, ?_, ?_⟩
    · rintro arg ⟨⟩
    · rintro arg ⟨⟩
    · rintro reason ⟨⟩
  obtain ⟨site, hreaches⟩ := hready.mp hlisting
  obtain ⟨report, hreport, houtput, -⟩ := (hruns site hreaches).dumps (by decide)
  refine ⟨by decide +kernel, hmatches twice ⟨rfl, rfl, rfl, rfl⟩ honce htwice hnames,
    ⟨site, hreaches, hruns site hreaches, report, hreport, houtput⟩, ?_⟩
  exact hrefused ⟨"shout", by decide, by decide +kernel⟩

end Launch

end PassPipeline.Invocation
