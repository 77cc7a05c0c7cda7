import PassPipeline.Proofs.Pipeline.Sources
import PassPipeline.Proofs.Pipeline.Truncation

/-!
# Runs onto streams of any capacity

The bytes that a run prints do not depend on the stream, except that a stream with too little
room accepts only the first of them (`run_limited`).  A run of the pipeline that is cut short
fails, and has recorded one failure if it records at all; a run that writes the report of the
dependencies is cut short by an error.  A stream that takes little at a time is as good as one
that takes everything at once.
-/

namespace PassPipeline

/-! ## Runs that are cut short -/

/-- What becomes of a run that would write the report, if there is so much room. -/
structure Site.ReportFills (site : Site) (timing : Timing) (room : ℕ) (output : ByteArray) :
    Prop where
  contents : (site.run timing).2.manager.stream.contents =
    site.manager.stream.contents ++ output.extract 0 room
  succeeded : output.size ≤ room → (site.run timing).1 = .ok true
  refused : room < output.size → ∃ reason, (site.run timing).1 = .error (.refused (.io reason))

namespace TextPipeline

open PassPipeline.Stream

variable {ids : Ids} {text : String} {site : Site} {room : ℕ}

/-- What becomes of a run of the pipeline that would print the output, if there is so much
room. -/
structure Ids.Fills (ids : Ids) (turn : Turn) (room : ℕ) (output : ByteArray) : Prop where
  contents : turn.after.stream.contents =
    turn.site.manager.stream.contents ++ output.extract 0 room
  result : turn.result = .ok (decide (output.size ≤ room))
  /-- The pass that prints the words has made no changes unless all of them are printed. -/
  uncredited : room < output.size →
    ((turn.site.run turn.timing).2.world.catalog.find? ids.emit).map (·.changes) =
      (turn.site.world.catalog.find? ids.emit).map (·.changes)
  recorded : room < output.size → turn.site.manager.settings.recordMetrics = true →
    ∃ name, (name = "Report" ∨ name = "Emit") ∧ ∀ other,
      turn.after.metrics.failed.getD other 0 =
        turn.metrics.failed.getD other 0 + if other = name then 1 else 0
  unrecorded : room < output.size → turn.site.manager.settings.recordMetrics = false →
    turn.after.metrics.failed = turn.metrics.failed

/-- Without room for the output, a slot of a pass that prints fails, and it is the last one. -/
theorem Ids.Hosted.fills_of_cut (hhosted : ids.Hosted site) (hpicked : ids.Picked site)
    (hlimit : 18 ≤ site.manager.settings.scheduleLimit)
    (hboundless : site.manager.stream.Boundless)
    (hseeded : site.manager.defaultResults[ids.read]? = some (.text text)) (timing : Timing)
    {stream : Stream} (hlimited : stream.Limited room) {output : ByteArray}
    (houtput : output = (String.join ((ids.agenda site).map (ids.printed text))).toUTF8)
    (hcut : room < output.size) :
    ids.Fills ⟨site.onto stream, timing⟩ room output := by
  obtain ⟨ready, hexecutes⟩ :=
    hhosted.executes hpicked (hhosted.length_agenda.trans hlimit) timing
  obtain ⟨slot, id, here, pass, after, hid, harrives, hfails, hfailed, hname, hreceived,
    hemit⟩ := hhosted.exists_cut hpicked hboundless hseeded hexecutes hlimited houtput hcut
  let turn : Turn := ⟨site.onto stream, timing⟩
  have hother := hexecutes.onto stream
  have hmeets : turn.Meets slot id here := ⟨_, _, hother, hid, harrives⟩
  obtain ⟨trace, hrun⟩ := hother.run_slots (harrives.executeFrom_of_failed hid hfailed)
  constructor
  · rw [Turn.after, hrun]
    exact hreceived.contents
  · rw [Turn.result, hrun, decide_eq_false (Nat.not_le.mpr hcut)]
  · intro _
    rw [hrun]
    exact congrArg _ hemit
  · intro _ hrecording
    refine ⟨pass.name, hname, fun other => ?_⟩
    rw [turn.failed_after hrecording]
    -- The run has one slot that fails, so no other name is recorded.
    have haborts := (Turn.aborts_iff hmeets hfails other).trans eq_comm
    by_cases hsame : other = pass.name
    · rw [if_pos (haborts.mpr hsame), if_pos hsame]
      rfl
    · rw [if_neg (mt haborts.mp hsame), if_neg hsame]
      rfl
  · intro _ hrecording
    exact (turn.unrecorded_after hrecording).2

/-- With room for the output, the stream is as good as one that never runs full. -/
theorem fills_of_fits (hboundless : site.manager.stream.Boundless) {timing : Timing}
    (hok : (site.run timing).1 = .ok true) {output : ByteArray}
    (hcontents : (site.run timing).2.manager.stream.contents =
      site.manager.stream.contents ++ output)
    {stream : Stream} (hlimited : stream.Limited room) (hfits : output.size ≤ room) :
    ids.Fills ⟨site.onto stream, timing⟩ room output := by
  obtain ⟨written, hwritten, hother⟩ := Site.pours_run hboundless timing
  obtain rfl : output = written :=
    (ByteArray.append_right_inj _).mp (hcontents.symm.trans hwritten.contents)
  obtain ⟨later, hlater, hrun⟩ := hother stream (hlimited.toSpares.mono hfits)
  have hrun : (site.onto stream).run timing = ((site.run timing).1, (site.run timing).2.onto later) :=
    hrun
  have hnot : ¬ room < output.size := Nat.not_lt.mpr hfits
  refine ⟨?_, ?_, fun hcut => absurd hcut hnot, fun hcut => absurd hcut hnot,
    fun hcut => absurd hcut hnot⟩
  · rw [Turn.after, hrun, extract_of_size_le hfits]
    exact hlater.contents
  · rw [Turn.result, hrun, decide_eq_true hfits]
    exact hok

/-- The output of a run, and what becomes of it onto a stream that may run full. -/
theorem Ids.Hosted.run_fills (hhosted : ids.Hosted site) (hpicked : ids.Picked site)
    (hlimit : 18 ≤ site.manager.settings.scheduleLimit)
    (hboundless : site.manager.stream.Boundless)
    (hseeded : site.manager.defaultResults[ids.read]? = some (.text text)) (timing : Timing)
    {stream : Stream} (hlimited : stream.Limited room) :
    ∃ output, (site.run timing).1 = .ok true ∧
      (site.run timing).2.manager.stream.contents = site.manager.stream.contents ++ output ∧
      ids.Fills ⟨site.onto stream, timing⟩ room output := by
  obtain ⟨hok, hstanding⟩ :=
    hhosted.run_standing hpicked hlimit hboundless.accepts hseeded timing
  have hcontents := hstanding.contents
  refine ⟨_, hok, hcontents, ?_⟩
  rcases Nat.lt_or_ge room
    (String.join ((ids.agenda site).map (ids.printed text))).toUTF8.size with hcut | hfits
  · exact hhosted.fills_of_cut hpicked hlimit hboundless hseeded timing hlimited rfl hcut
  · exact fills_of_fits hboundless hok hcontents hlimited hfits

/-! ## The report of the dependencies -/

/-- Every pass that a collection of the pipeline learns of has a name. -/
theorem Ids.Hosted.exists_report (hhosted : ids.Hosted site) :
    ∃ report, site.collect.2.report = .ok report := by
  have hcollect := hhosted.collect_eq
  obtain ⟨selected, dependencies, trace, hframe⟩ := site.collect_frame
  -- The manager's own pass and the six of the pipeline are all in the catalogue.
  have hnamed : ∀ id, id = site.manager.own ∨ id ∈ ids.all → site.collect.2.Named id := by
    intro id hid
    obtain ⟨registration, pass, hfind, -⟩ :
        ∃ registration, site.world.catalog.Offers id registration := by
      rcases hid with rfl | hid
      · exact ⟨_, hhosted.own⟩
      · exact hhosted.entered.offers hid
    refine ⟨pass.name, ?_⟩
    have hinfo : site.collect.2.world.catalog.info id = .ok pass := by
      rw [hframe]
      exact Catalog.info_eq_ok_iff.mpr hfind
    rw [Site.name, hinfo]
    rfl
  refine Site.exists_report fun id hid => ⟨?_, fun other hother => ?_, fun other hother => ?_⟩
  · obtain ⟨usage, husage⟩ :=
      Option.isSome_iff_exists.mp (Std.ExtTreeMap.isSome_getElem?_iff_mem.mpr hid)
    have hmanaged := ((Site.usages_collect hcollect id usage).mp husage).1
    exact hnamed id ((hhosted.managed id).mp hmanaged)
  · rw [Site.mem_required_collect hcollect, hhosted.declares_iff, mem_declarations] at hother
    refine hnamed other (Or.inr (mem_all.mpr ?_))
    grind
  · have hdeclares := (Site.mem_providing_collect hcollect).mp hother
    exact hnamed other ((hhosted.managed other).mp hdeclares.1)

/-- The run writes the report, and nothing else. -/
theorem Ids.Hosted.run_report (hhosted : ids.Hosted site)
    (hown : site.Flagged site.manager.own) (hboundless : site.manager.stream.Boundless)
    (timing : Timing) :
    ∃ report ready, site.collect.2.report = .ok report ∧ site.Dumps timing ready ∧
      (site.run timing).1 = .ok true ∧
      (site.run timing).2.manager.stream.contents =
        site.manager.stream.contents ++ report.toUTF8 := by
  obtain ⟨report, hreport⟩ := hhosted.exists_report
  obtain ⟨ready, hdumps⟩ := Site.exists_dumps hhosted.collect_eq hown timing
  obtain ⟨after, hpublish, hafter⟩ := (hboundless _).publish (Nat.le_refl report.toUTF8.size)
  obtain ⟨hstream, hsucceeds, -⟩ := hdumps.run_publish hreport hpublish
  exact ⟨report, ready, hreport, hdumps, hsucceeds rfl, by rw [hstream, hafter.contents]⟩

/-- The report that a run writes, and what becomes of it onto a stream that may run full. -/
theorem Ids.Hosted.report_fills (hhosted : ids.Hosted site)
    (hown : site.Flagged site.manager.own) (hboundless : site.manager.stream.Boundless)
    (timing : Timing) {stream : Stream} (hlimited : stream.Limited room) :
    ∃ report, site.collect.2.report = .ok report ∧ (site.run timing).1 = .ok true ∧
      (site.run timing).2.manager.stream.contents =
        site.manager.stream.contents ++ report.toUTF8 ∧
      (site.onto stream).ReportFills timing room report.toUTF8 := by
  obtain ⟨report, ready, hreport, hdumps, hok, hcontents⟩ :=
    hhosted.run_report hown hboundless timing
  have hother : (site.onto stream).Dumps timing (ready.onto stream) :=
    ⟨hdumps.isReady.onto stream, hdumps.own⟩
  have hsame : (site.onto stream).collect.2.report = .ok report := by
    rw [Site.collect_onto]
    exact hreport
  refine ⟨report, hreport, hok, hcontents, ?_⟩
  rcases Nat.lt_or_ge room report.toUTF8.size with hcut | hfits
  · obtain ⟨reason, last, hrefused, hlast⟩ := hlimited.publish_cut hcut
    obtain ⟨hwritten, -, hfails⟩ := hother.run_publish hsame hrefused
    refine ⟨?_, fun hfits => absurd hcut (Nat.not_lt.mpr hfits), fun _ => ⟨reason, hfails _ rfl⟩⟩
    rw [hwritten]
    exact hlast.contents
  · obtain ⟨last, haccepted, hlast⟩ := hlimited.publish hfits
    obtain ⟨hwritten, hsucceeds, -⟩ := hother.run_publish hsame haccepted
    refine ⟨?_, fun _ => hsucceeds rfl, fun hcut => absurd hcut (Nat.not_lt.mpr hfits)⟩
    rw [hwritten, extract_of_size_le hfits]
    exact hlast.contents

/-- A stream with little room gets the beginning of what the same run would print otherwise.  The
run of the pipeline fails if that is not all, and the run that writes the report is refused.  How
much a stream takes at a time makes no difference to any run of any passes. -/
theorem run_limited {catalog registered : Catalog} (hnumbered : catalog.Numbered)
    (hroom : catalog.size + 6 ≤ 2 ^ 32)
    (hregister : registerAll.run catalog = (.ok ids, registered))
    (hretains : registered.Retains site.world.catalog)
    (hown : site.world.catalog.Offers site.manager.own Manager.registration)
    (hmanaged : ∀ id, id ∈ site.manager.managed ↔ id = site.manager.own ∨ id ∈ ids.all)
    (hboundless : site.manager.stream.Boundless) {stream : Stream}
    (hlimited : stream.Limited room) (timing : Timing) :
    (ids.Picked site → 18 ≤ site.manager.settings.scheduleLimit →
      (∃ text : String, site.manager.defaultResults[ids.read]? = some (.text text)) →
      ∃ output, (site.run timing).1 = .ok true ∧
        (site.run timing).2.manager.stream.contents = site.manager.stream.contents ++ output ∧
        ids.Fills ⟨site.onto stream, timing⟩ room output) ∧
    (site.Flagged site.manager.own →
      ∃ report, site.collect.2.report = .ok report ∧ (site.run timing).1 = .ok true ∧
        (site.run timing).2.manager.stream.contents =
          site.manager.stream.contents ++ report.toUTF8 ∧
        (site.onto stream).ReportFills timing room report.toUTF8) ∧
    ∀ (any : Site) (other : Stream), any.manager.stream.Boundless → other.Boundless →
      ∃ written later,
        (any.run timing).2.manager.stream.contents = any.manager.stream.contents ++ written ∧
        later.contents = other.contents ++ written ∧
        (any.onto other).run timing = ((any.run timing).1, (any.run timing).2.onto later) := by
  have hentered := (registerAll_eq_ok hnumbered hroom hregister).1.retained hretains
  have hhosted : ids.Hosted site := ⟨hentered, hown, hmanaged⟩
  refine ⟨fun hpicked hlimit hseeded => ?_, fun hflagged => ?_, fun any other hany hother => ?_⟩
  · obtain ⟨text, hseeded⟩ := hseeded
    exact hhosted.run_fills hpicked hlimit hboundless hseeded timing hlimited
  · exact hhosted.report_fills hflagged hboundless timing hlimited
  · obtain ⟨written, hwritten, hpours⟩ := Site.pours_run hany timing
    obtain ⟨later, hlater, hrun⟩ := hpours other (hother _)
    exact ⟨written, later, hwritten.contents, hlater.contents, hrun⟩

/-- Has room for the report of the text and for some of the words. -/
def brimming : Stream := .ofWriter (.failing 42 "no room")

/-- The manager's own pass is selected, too. -/
def directory : Site :=
  { workshop with world := { workshop.world with catalog := flag workshop.world.catalog ⟨0⟩ } }

theorem retains_directory : workshop.world.catalog.Retains directory.world.catalog := by
  have hflag : ∀ (catalog : Catalog) (id : PassId), catalog.Retains (flag catalog id) :=
    fun catalog id => Catalog.retains_update (fun _ => rfl) fun _ => rfl
  exact hflag workshop.world.catalog ⟨0⟩

theorem hosted_directory : workshopIds.Hosted directory where
  entered := hosted_workshop.entered.retained retains_directory
  own := retains_directory _ _ hosted_workshop.own
  managed := hosted_workshop.managed

theorem run_limited_workshop :
    (∃ output, (workshop.run {}).1 = .ok true ∧
      (workshop.run {}).2.manager.stream.contents = output ∧
      workshopIds.Fills ⟨workshop.onto brimming, {}⟩ 42 output) ∧
    ((workshop.onto brimming).run {}).2.manager.stream.contents =
      "lines: 2\nwords: 4\nchars: 8\ndistinct: 3\na\nb".toUTF8 ∧
    ((workshop.onto brimming).run {}).2.manager.metrics.failed.getD "Emit" 0 = 1 ∧
    (∃ written later, (workshop.run {}).2.manager.stream.contents = written ∧
      later.contents = written ∧
      (workshop.onto (.ofWriter (.chunked 1))).run {} =
        ((workshop.run {}).1, (workshop.run {}).2.onto later)) ∧
    ∃ report, directory.collect.2.report = .ok report ∧
      (directory.onto (.ofWriter (.limited 5))).ReportFills {} 5 report.toUTF8 := by
  have hbrimming : brimming.Limited 42 := limited_failing 42 "no room"
  obtain ⟨hpipeline, -, hchunked⟩ := run_limited grows_workshopBase.numbered (by decide)
    register_workshop retains_workshop hosted_workshop.own hosted_workshop.managed
    boundless_buffer hbrimming {}
  obtain ⟨-, hdirectory, -⟩ := run_limited grows_workshopBase.numbered (by decide)
    register_workshop (retains_workshop.trans retains_directory) hosted_directory.own
    hosted_directory.managed boundless_buffer (limited_limited 5) {}
  obtain ⟨output, hok, houtput, hfills⟩ := hpipeline picked_workshop (by decide)
    ⟨"a b a\nc\n", by decide +kernel⟩
  obtain ⟨written, later, hwritten, hlater, hrun⟩ :=
    hchunked workshop _ boundless_buffer (boundless_chunked (Nat.le_refl 1))
  obtain ⟨report, hreport, -, -, hcut⟩ := hdirectory (flagged_iff.mpr (by decide +kernel))
  have hempty : workshop.manager.stream.contents = ByteArray.empty := rfl
  have hfresh : (Stream.ofWriter (.chunked 1)).contents = ByteArray.empty := rfl
  rw [hempty, ByteArray.empty_append] at houtput hwritten
  rw [hfresh, ByteArray.empty_append] at hlater
  have hcontents : ((workshop.onto brimming).run {}).2.manager.stream.contents =
      "lines: 2\nwords: 4\nchars: 8\ndistinct: 3\na\nb".toUTF8 := by decide +kernel
  have hfailed : ((workshop.onto brimming).run {}).2.manager.metrics.failed.getD "Emit" 0 = 1 := by
    decide +kernel
  exact ⟨⟨output, hok, houtput, hfills⟩, hcontents, hfailed,
    ⟨written, later, hwritten, hlater, hrun⟩, report, hreport, hcut⟩

/-- A manager that records nothing records no failure, either. -/
theorem failure_unrecorded :
    workshopIds.Hosted unmetered ∧ workshopIds.Picked unmetered ∧
    18 ≤ unmetered.manager.settings.scheduleLimit ∧
    unmetered.manager.defaultResults[workshopIds.read]? = some (.text "a b a\nc\n") ∧
    unmetered.manager.stream.Boundless ∧ brimming.Limited 42 ∧
    42 < (unmetered.run {}).2.manager.stream.contents.size ∧
    ((unmetered.onto brimming).run {}).1 = .ok false ∧
    ¬ ∃ name, (name = "Report" ∨ name = "Emit") ∧ ∀ other,
      ((unmetered.onto brimming).run {}).2.manager.metrics.failed.getD other 0 =
        unmetered.manager.metrics.failed.getD other 0 + if other = name then 1 else 0 := by
  refine ⟨⟨hosted_workshop.entered, hosted_workshop.own, hosted_workshop.managed⟩,
    ⟨picked_workshop.own, picked_workshop.some⟩, by decide, by decide +kernel, boundless_buffer,
    limited_failing 42 "no room", by decide +kernel, by decide +kernel, ?_⟩
  have hnone : ∀ name, name = "Report" ∨ name = "Emit" →
      ((unmetered.onto brimming).run {}).2.manager.metrics.failed.getD name 0 = 0 := by
    rintro name (rfl | rfl)
    · decide +kernel
    · decide +kernel
  rintro ⟨name, hname, hrecorded⟩
  have hone := hrecorded name
  have hbefore : unmetered.manager.metrics.failed.getD name 0 = 0 :=
    Std.ExtTreeMap.getD_empty
  rw [hnone name hname, hbefore, if_pos rfl] at hone
  exact absurd hone (by decide)

end TextPipeline

end PassPipeline
