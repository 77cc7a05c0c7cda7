import PassPipeline.Proofs.Pipeline.Execution
import PassPipeline.Proofs.Pipeline.Reading
import PassPipeline.Proofs.Text.Bytes

/-!
# Where the text comes from

A manager of the pipeline finds its text among the default results, or it reads it from the
standard input.  It makes no difference which (`sources_agree`): a schedule begins with the
reading pass, so that either the leading slot is skipped or it stores the same value, and the
sites are twins when it is done.

Two settings of the manager show all the same.  If the limit is too low for the schedule then
both runs are refused before anything is read, and if slots are not recorded then the reading is
not either.
-/

namespace PassPipeline

namespace Site

/-- The text is the default value of the pass. -/
def seeded (site : Site) (read : PassId) (text : String) : Site where
  manager := { site.manager with
    defaultResults := site.manager.defaultResults.insert read (.text text) }
  world := site.world

/-- There is no default value for the pass, and the bytes are on the standard input. -/
def fed (site : Site) (read : PassId) (bytes : ByteArray) : Site where
  manager := { site.manager with defaultResults := site.manager.defaultResults.erase read }
  world := { site.world with input := bytes }

/-- The run executes the schedule, and the passes that it calls read the standard input that
often. -/
def Reads (site : Site) (timing : Timing) (schedule : List PassId) (count : Nat) : Prop :=
  ∃ ready, site.Executes timing ready schedule ∧
    readings timing schedule (ready.commit timing schedule) = count

/-- The runs return, write, store and change the same. -/
structure Matches (first second : Except Halt Bool × Site) : Prop where
  result : second.1 = first.1
  stream : second.2.manager.stream = first.2.manager.stream
  results : second.2.manager.results = first.2.manager.results
  catalog : second.2.world.catalog = first.2.world.catalog

/-- The schedule is too long, and nothing has been done. -/
structure Refuses (site : Site) (timing : Timing) : Prop where
  result : (site.run timing).1 =
    .error (.refused (.scheduleLimitExceeded site.manager.settings.scheduleLimit))
  manager : ∃ selected dependencies,
    (site.run timing).2.manager = { site.manager with selected, dependencies }
  catalog : (site.run timing).2.world.catalog = site.world.catalog
  input : (site.run timing).2.world.input = site.world.input

end Site

namespace TextPipeline

/-- Both runs execute the schedule.  The second consumes the standard input in a single reading,
where the first skips a slot. -/
structure ReadOnce (seeded fed : Site) (timing timing' : Timing) (schedule : List PassId) :
    Prop where
  silent : seeded.Reads timing schedule 0
  untouched : (seeded.run timing).2.world.input = seeded.world.input
  once : fed.Reads timing' schedule 1
  consumed : (fed.run timing').2.world.input = ByteArray.empty
  metrics : Metrics.Trade readRegistration.name seeded.manager.settings.recordMetrics
    (seeded.run timing).2.manager.metrics (fed.run timing').2.manager.metrics

/-- The run executes the schedule, and fails at the leading slot. -/
structure ReadVainly (read : PassId) (fed : Site) (timing : Timing) (schedule : List PassId) :
    Prop where
  result : (fed.run timing).1 = .ok false
  stream : (fed.run timing).2.manager.stream = fed.manager.stream
  missing : read ∉ (fed.run timing).2.manager.results
  once : fed.Reads timing schedule 1
  metrics : (fed.run timing).2.manager.metrics =
    let counted := fed.manager.metrics.recordSchedule schedule.length
    if fed.manager.settings.recordMetrics then counted.recordFailure readRegistration.name
    else counted

variable {ids : Ids} {site : Site} {text : String} {timing timing' : Timing}

/-! ## Schedules -/

theorem Ids.Hosted.seeded (hhosted : ids.Hosted site) (text : String) :
    ids.Hosted (site.seeded ids.read text) := ⟨hhosted.entered, hhosted.own, hhosted.managed⟩

theorem Ids.Hosted.fed (hhosted : ids.Hosted site) (bytes : ByteArray) :
    ids.Hosted (site.fed ids.read bytes) := ⟨hhosted.entered, hhosted.own, hhosted.managed⟩

theorem Ids.Picked.seeded (hpicked : ids.Picked site) (text : String) :
    ids.Picked (site.seeded ids.read text) := ⟨hpicked.own, hpicked.some⟩

theorem Ids.Picked.fed (hpicked : ids.Picked site) (bytes : ByteArray) :
    ids.Picked (site.fed ids.read bytes) := ⟨hpicked.own, hpicked.some⟩

/-- Managers of the same passes execute the same schedule. -/
theorem Ids.Hosted.executes_congr (hhosted : ids.Hosted site) {other : Site}
    (hother : ids.Hosted other) (hpicked : ids.Picked other)
    (hcatalog : other.world.catalog = site.world.catalog)
    (hfits : (ids.agenda site).length ≤ other.manager.settings.scheduleLimit) (timing : Timing) :
    ∃ ready, other.Executes timing ready (ids.agenda site) := by
  rw [← hhosted.agenda_congr hother hcatalog] at hfits ⊢
  exact hother.executes hpicked hfits timing

theorem Ids.Hosted.refuses (hhosted : ids.Hosted site) (hpicked : ids.Picked site)
    (htight : site.manager.settings.scheduleLimit < (ids.agenda site).length) (timing : Timing) :
    site.Refuses timing := by
  obtain ⟨ready, hready, hown, hplan⟩ := hhosted.plan hpicked timing
  rw [if_neg (Nat.not_le_of_lt htight)] at hplan
  have hrun := hready.run_of_unplanned hown hplan
  obtain ⟨selected, trace, hframe⟩ := hready.frame
  rw [hframe] at hrun
  constructor
  · rw [hrun]
  · exact ⟨_, _, by rw [hrun]⟩
  · rw [hrun]
  · rw [hrun]

theorem matches_of_refuses {bytes : ByteArray}
    (hseeded : (site.seeded ids.read text).Refuses timing)
    (hfed : (site.fed ids.read bytes).Refuses timing') :
    Site.Matches ((site.seeded ids.read text).run timing)
      ((site.fed ids.read bytes).run timing') := by
  obtain ⟨selected, dependencies, hmanager⟩ := hseeded.manager
  obtain ⟨selected', dependencies', hmanager'⟩ := hfed.manager
  constructor
  · exact hfed.result.trans hseeded.result.symm
  · rw [hmanager, hmanager']
    rfl
  · rw [hmanager, hmanager']
    rfl
  · exact hfed.catalog.trans hseeded.catalog.symm

/-! ## Runs -/

theorem insert_erase (results : Results) (id : PassId) (value : Value) :
    (results.erase id).insert id value = results.insert id value := by
  apply Std.ExtTreeMap.ext_getElem?
  intro key
  rw [Std.ExtTreeMap.getElem?_insert, Std.ExtTreeMap.getElem?_insert,
    Std.ExtTreeMap.getElem?_erase]
  split <;> rfl

/-- The schedules begin in sites that have the text in different places. -/
theorem Ids.Hosted.apart (hhosted : ids.Hosted site) {ready ready' : Site}
    (hready : (site.seeded ids.read text).Ready timing ready)
    (hready' : (site.fed ids.read text.toUTF8).Ready timing' ready') (schedule : List PassId) :
    ids.Apart text (ready.commit timing schedule) (ready'.commit timing' schedule) := by
  obtain ⟨selected, dependencies, trace, hstart⟩ := hready.commit_eq schedule
  obtain ⟨selected', dependencies', trace', hstart'⟩ := hready'.commit_eq schedule
  rw [hstart, hstart']
  constructor
  · exact hhosted.entered
  · rfl
  · rfl
  · rfl
  · rfl
  · exact insert_erase _ _ _
  · simp [Site.fed]
  · exact Text.fromUTF8?_eq_some_iff.mpr rfl

theorem Ids.Hosted.read_once (hhosted : ids.Hosted site) (hpicked : ids.Picked site)
    (hfits : (ids.agenda site).length ≤ site.manager.settings.scheduleLimit) (text : String)
    (timing timing' : Timing) :
    Site.Matches ((site.seeded ids.read text).run timing)
      ((site.fed ids.read text.toUTF8).run timing') ∧
    ReadOnce (site.seeded ids.read text) (site.fed ids.read text.toUTF8) timing timing'
      (ids.agenda site) := by
  obtain ⟨ready, hexecutes⟩ :=
    hhosted.executes_congr (hhosted.seeded text) (hpicked.seeded text) rfl hfits timing
  obtain ⟨ready', hexecutes'⟩ :=
    hhosted.executes_congr (hhosted.fed text.toUTF8) (hpicked.fed text.toUTF8) rfl hfits timing'
  obtain ⟨rest, hcons, hall⟩ := hhosted.agenda_eq_cons hpicked
  rw [hcons] at hexecutes hexecutes' ⊢
  have hapart := hhosted.apart hexecutes.isReady hexecutes'.isReady (ids.read :: rest)
  obtain ⟨hnever, honce, hagree⟩ := hapart.executions_agree hall timing timing'
  obtain ⟨result, after, after', hslots, hslots', htwins, hinput, hinput'⟩ := hagree.exists
  obtain ⟨trace, hrun⟩ := hexecutes.run_slots hslots
  obtain ⟨trace', hrun'⟩ := hexecutes'.run_slots hslots'
  -- Twins count as the settings say that they have, and these are still the same.
  have hsettings : after.manager.settings = site.manager.settings := by
    obtain ⟨selected, schedule, results, stream, metrics, hframe⟩ :=
      (site.seeded ids.read text).run_frame timing
    rw [hrun] at hframe
    exact congrArg (·.settings) hframe
  refine ⟨?_, ⟨⟨ready, hexecutes, hnever⟩, ?_, ⟨ready', hexecutes', honce⟩, ?_, ?_⟩⟩
  · rw [hrun, hrun']
    exact ⟨rfl, htwins.stream, htwins.results, htwins.catalog⟩
  · rw [hrun]
    obtain ⟨selected, dependencies, observed, hstart⟩ :=
      hexecutes.isReady.commit_eq (ids.read :: rest)
    rw [hstart] at hinput
    exact hinput
  · rw [hrun']
    exact hinput'
  · have hmetrics := htwins.metrics
    rw [hsettings] at hmetrics
    rw [hrun, hrun']
    exact hmetrics

theorem Ids.Hosted.read_vainly (hhosted : ids.Hosted site) (hpicked : ids.Picked site)
    (hfits : (ids.agenda site).length ≤ site.manager.settings.scheduleLimit) {bytes : ByteArray}
    (hbytes : ¬ bytes.IsValidUTF8) (timing : Timing) :
    ReadVainly ids.read (site.fed ids.read bytes) timing (ids.agenda site) := by
  obtain ⟨ready, hexecutes⟩ :=
    hhosted.executes_congr (hhosted.fed bytes) (hpicked.fed bytes) rfl hfits timing
  obtain ⟨rest, hcons, -⟩ := hhosted.agenda_eq_cons hpicked
  rw [hcons] at hexecutes ⊢
  obtain ⟨selected, dependencies, trace, hstart⟩ :=
    hexecutes.isReady.commit_eq (ids.read :: rest)
  have hentered : ids.Entered (ready.commit timing (ids.read :: rest)).world.catalog := by
    rw [hstart]
    exact hhosted.entered
  have hmissing : ids.read ∉ (ready.commit timing (ids.read :: rest)).manager.results := by
    rw [hstart]
    simp [Site.fed]
  have hinvalid : String.fromUTF8? (ready.commit timing (ids.read :: rest)).world.input = none := by
    rw [hstart]
    exact dif_neg hbytes
  obtain ⟨honce, observed, hslots⟩ := hentered.begin_vainly hmissing hinvalid timing rest
  obtain ⟨final, hrun⟩ := hexecutes.run_slots hslots
  rw [hstart] at hmissing hrun
  constructor
  · rw [hrun]
  · rw [hrun]
  · rw [hrun]
    exact hmissing
  · exact ⟨ready, hexecutes, honce⟩
  · rw [hrun]
    rfl

/-- A run cannot tell whether its text was a default value or came from the standard input.  It
reads once if it has to read, and then it counts an execution where it would else have counted a
skipped slot.  It fails if what it reads is no text.  All of this comes about if the schedule
keeps to the limit.  A run that is refused reads nothing. -/
theorem sources_agree {catalog registered : Catalog} (hnumbered : catalog.Numbered)
    (hroom : catalog.size + 6 ≤ 2 ^ 32)
    (hregister : registerAll.run catalog = (.ok ids, registered))
    (hretains : registered.Retains site.world.catalog)
    (hown : site.world.catalog.Offers site.manager.own Manager.registration)
    (hmanaged : ∀ id, id ∈ site.manager.managed ↔ id = site.manager.own ∨ id ∈ ids.all)
    (hpicked : ids.Picked site) (timing timing' : Timing) :
    (∀ text : String, Site.Matches ((site.seeded ids.read text).run timing)
      ((site.fed ids.read text.toUTF8).run timing')) ∧
    ((ids.agenda site).length ≤ site.manager.settings.scheduleLimit →
      (∀ text : String, ReadOnce (site.seeded ids.read text) (site.fed ids.read text.toUTF8)
        timing timing' (ids.agenda site)) ∧
      ∀ bytes : ByteArray, ¬ bytes.IsValidUTF8 →
        ReadVainly ids.read (site.fed ids.read bytes) timing' (ids.agenda site)) ∧
    (site.manager.settings.scheduleLimit < (ids.agenda site).length →
      (∀ text : String, (site.seeded ids.read text).Refuses timing) ∧
      ∀ bytes : ByteArray, (site.fed ids.read bytes).Refuses timing') := by
  have hentered := (registerAll_eq_ok hnumbered hroom hregister).1.retained hretains
  have hhosted : ids.Hosted site := ⟨hentered, hown, hmanaged⟩
  -- Where the text comes from makes no difference to the length of a schedule.
  have hrefused : site.manager.settings.scheduleLimit < (ids.agenda site).length →
      (∀ text : String, (site.seeded ids.read text).Refuses timing) ∧
      ∀ bytes : ByteArray, (site.fed ids.read bytes).Refuses timing' := by
    intro htight
    constructor
    · intro text
      refine (hhosted.seeded text).refuses (hpicked.seeded text) ?_ timing
      rw [hhosted.agenda_congr (hhosted.seeded text) rfl]
      exact htight
    · intro bytes
      refine (hhosted.fed bytes).refuses (hpicked.fed bytes) ?_ timing'
      rw [hhosted.agenda_congr (hhosted.fed bytes) rfl]
      exact htight
  refine ⟨fun text => ?_, fun hfits => ⟨fun text => ?_, fun bytes hbytes => ?_⟩, hrefused⟩
  · by_cases hfits : (ids.agenda site).length ≤ site.manager.settings.scheduleLimit
    · exact (hhosted.read_once hpicked hfits text timing timing').1
    · obtain ⟨hseeded, hfed⟩ := hrefused (Nat.lt_of_not_le hfits)
      exact matches_of_refuses (hseeded text) (hfed text.toUTF8)
  · exact (hhosted.read_once hpicked hfits text timing timing').2
  · exact hhosted.read_vainly hpicked hfits hbytes timing'

theorem sources_agree_workshop :
    Site.Matches ((workshop.seeded ⟨1⟩ "a b a\nc\n").run {})
      ((workshop.fed ⟨1⟩ "a b a\nc\n".toUTF8).run {}) ∧
    ReadOnce (workshop.seeded ⟨1⟩ "a b a\nc\n") (workshop.fed ⟨1⟩ "a b a\nc\n".toUTF8) {} {}
      (workshopIds.agenda workshop) ∧
    ReadVainly ⟨1⟩ (workshop.fed ⟨1⟩ ⟨#[0xff]⟩) {} (workshopIds.agenda workshop) := by
  obtain ⟨hmatches, hfits, -⟩ := sources_agree grows_workshopBase.numbered (by decide)
    register_workshop retains_workshop hosted_workshop.own hosted_workshop.managed
    picked_workshop {} {}
  obtain ⟨honce, hvainly⟩ := hfits hosted_workshop.length_agenda
  exact ⟨hmatches _, honce _, hvainly _ (by decide)⟩

/-- The limit is too low for any schedule. -/
def cramped : Site :=
  { workshop with manager := { workshop.manager with settings := { scheduleLimit := 0 } } }

/-- Slots are not recorded. -/
def unmetered : Site :=
  { workshop with manager := { workshop.manager with
      settings := { scheduleLimit := 18, recordMetrics := false } } }

/-- A refused run does not read, and without records neither a reading nor its failure is
counted. -/
theorem limit_and_recording_matter :
    (workshopIds.Hosted cramped ∧ workshopIds.Picked cramped ∧
      ((cramped.fed ⟨1⟩ "a".toUTF8).run {}).2.world.input = "a".toUTF8 ∧
      ((cramped.fed ⟨1⟩ ⟨#[0xff]⟩).run {}).1 = .error (.refused (.scheduleLimitExceeded 0))) ∧
    (workshopIds.Hosted unmetered ∧ workshopIds.Picked unmetered ∧
      ((unmetered.fed ⟨1⟩ "a".toUTF8).run {}).2.manager.metrics.executed.getD "Read" 0 =
        ((unmetered.seeded ⟨1⟩ "a").run {}).2.manager.metrics.executed.getD "Read" 0 ∧
      ((unmetered.fed ⟨1⟩ ⟨#[0xff]⟩).run {}).2.manager.metrics.failed.getD "Read" 0 = 0) ∧
    ¬ (⟨#[0xff]⟩ : ByteArray).IsValidUTF8 := by
  have hinvalid : ¬ (⟨#[0xff]⟩ : ByteArray).IsValidUTF8 := by decide
  refine ⟨?_, ?_, hinvalid⟩
  · have hhosted : workshopIds.Hosted cramped :=
      ⟨hosted_workshop.entered, hosted_workshop.own, hosted_workshop.managed⟩
    have hpicked : workshopIds.Picked cramped := ⟨picked_workshop.own, picked_workshop.some⟩
    have hrefused : ∀ bytes, (cramped.fed ⟨1⟩ bytes).Refuses {} := by
      intro bytes
      obtain ⟨rest, hcons, -⟩ := (hhosted.fed bytes).agenda_eq_cons (hpicked.fed bytes)
      refine (hhosted.fed bytes).refuses (hpicked.fed bytes) ?_ {}
      rw [hcons]
      exact Nat.succ_pos rest.length
    exact ⟨hhosted, hpicked, (hrefused _).input, (hrefused _).result⟩
  · have hhosted : workshopIds.Hosted unmetered :=
      ⟨hosted_workshop.entered, hosted_workshop.own, hosted_workshop.managed⟩
    have hpicked : workshopIds.Picked unmetered := ⟨picked_workshop.own, picked_workshop.some⟩
    obtain ⟨-, honce⟩ := hhosted.read_once hpicked hhosted.length_agenda "a" {} {}
    have hvainly := hhosted.read_vainly hpicked hhosted.length_agenda hinvalid {}
    refine ⟨hhosted, hpicked, ?_, ?_⟩
    · exact congrArg (·.getD "Read" 0) honce.metrics.executed
    · exact congrArg (·.failed.getD "Read" 0) hvainly.metrics

end TextPipeline

end PassPipeline
