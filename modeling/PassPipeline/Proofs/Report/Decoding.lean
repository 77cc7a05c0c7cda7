import PassPipeline.Proofs.Catalog.Naming
import PassPipeline.Proofs.Report.Picture
import PassPipeline.Proofs.Run.Dumping

/-!
# What a report tells

Names are unique in a registry.  If they have no line feeds in them then a report tells which
passes have been collected, and what leads to what: there are no two graphs with the same report
(`report_faithful`).  To read a report back, its text is cut into lines and the lines into blocks,
and the passes are found by the names in the blocks.

A report is refused only for a pass that does not resolve, and then nothing is written.  Circles
and the limit of the schedule do not matter to it, since nothing is scheduled.
-/

namespace PassPipeline

/-- The passes that the catalogue finds by the names of a block. -/
def Block.find (catalog : Catalog) (block : Block) :
    Option PassId × List (Option PassId) × List (Option PassId) :=
  (catalog.findName block.name, block.requirements.map catalog.findName,
    block.providers.map catalog.findName)

namespace Site

variable {site other : Site} {catalog : Catalog} {text : String} {error : PassError}

/-- The same passes have been collected, and they require and are provided by the same passes. -/
structure SameGraph (site other : Site) : Prop where
  mem_iff : ∀ id, id ∈ other.manager.dependencies.usages ↔ id ∈ site.manager.dependencies.usages
  required : ∀ id ∈ site.manager.dependencies.usages,
    other.manager.dependencies.required id = site.manager.dependencies.required id
  providing : ∀ id ∈ site.manager.dependencies.usages,
    other.manager.dependencies.providing id = site.manager.dependencies.providing id

/-! ## Refusals -/

theorem name_eq_ok_iff {id : PassId} {name : String} :
    site.name id = .ok name ↔ ∃ pass, site.world.catalog.find? id = some pass ∧ pass.name = name := by
  rw [Site.name, Catalog.info]
  cases site.world.catalog.find? id with
  | none => exact ⟨by rintro ⟨⟩, by simp⟩
  | some pass => exact ⟨fun heq => ⟨pass, rfl, Except.ok.inj heq⟩, by simp [Except.map]⟩

theorem named_iff {id : PassId} :
    site.Named id ↔ (site.world.catalog.find? id).isSome = true := by
  simp [Named, name_eq_ok_iff, Option.isSome_iff_exists]

theorem report_eq_ok_iff : site.report = .ok text ↔
    (∀ id ∈ site.mentioned, site.Named id) ∧ text = Block.render site.picture := by
  simp only [named_iff]
  exact site.resolves_report.eq_ok_iff

/-- A refused report names a pass that it would mention. -/
theorem refused_of_report (herror : site.report = .error error) :
    ∃ id ∈ site.mentioned, site.world.catalog.find? id = none ∧ error = .unknownPass id := by
  have hresolves := site.resolves_report
  rw [herror] at hresolves
  exact hresolves.of_error

/-! ## Reading a report back -/

/-- The catalogue finds the passes by their names, and there is no line feed in these. -/
structure Legible (site : Site) (catalog : Catalog) : Prop where
  found : ∀ id, site.Named id → catalog.findName (site.called id) = some id
  plain : ∀ id, site.Named id → '\n' ∉ (site.called id).toList

theorem legible (hunique : site.world.catalog.Unique Card.naming)
    (hplain : ∀ id name, site.name id = .ok name → '\n' ∉ name.toList) :
    site.Legible site.world.catalog where
  found id hnamed := by
    obtain ⟨name, hname⟩ := hnamed
    obtain ⟨pass, hfind, rfl⟩ := name_eq_ok_iff.mp hname
    have hcalled : site.called id = pass.name := by
      rw [called, hname]
      rfl
    rw [hcalled, Catalog.findName, hunique.search_eq_some_iff (Catalog.name_beq_iff pass.name)]
    exact ⟨pass.card, Catalog.card?_eq_some_iff.mpr ⟨pass, hfind, rfl⟩, rfl⟩
  plain id hnamed := by
    obtain ⟨name, hname⟩ := hnamed
    rw [called, hname]
    exact hplain id name hname

theorem Legible.congr (hlegible : site.Legible catalog)
    (hnames : ∀ id, other.name id = site.name id) : other.Legible catalog := by
  have hcalled : other.called = site.called :=
    funext fun id => by rw [called, called, hnames]
  have hnamed : ∀ id, other.Named id → site.Named id := by
    intro id hid
    rwa [Named, ← hnames]
  constructor
  · intro id hid
    rw [hcalled]
    exact hlegible.found id (hnamed id hid)
  · intro id hid
    rw [hcalled]
    exact hlegible.plain id (hnamed id hid)

/-- What a block of a report says in terms of passes. -/
def entry (site : Site) (id : PassId) : Option PassId × List (Option PassId) × List (Option PassId) :=
  (some id, (site.manager.dependencies.required id).map some,
    (site.manager.dependencies.providing id).map some)

theorem Legible.find_picture (hlegible : site.Legible catalog)
    (hnamed : ∀ id ∈ site.mentioned, site.Named id) :
    site.picture.map (Block.find catalog) = site.manager.dependencies.usages.keys.map site.entry := by
  have hfound : ∀ {ids : List PassId}, (∀ id ∈ ids, site.Named id) →
      (ids.map site.called).map catalog.findName = ids.map some := by
    intro ids hids
    rw [List.map_map]
    exact List.map_congr_left fun id hid => hlegible.found id (hids id hid)
  rw [picture, List.map_map]
  refine List.map_congr_left fun id hid => ?_
  obtain ⟨hself, hedges⟩ := List.forall_mem_cons.mp fun other hother =>
    hnamed other (List.mem_flatMap.mpr ⟨id, hid, hother⟩)
  obtain ⟨hrequired, hproviding⟩ := List.forall_mem_append.mp hedges
  simp only [Function.comp_apply, Block.find, sketch, entry]
  rw [hlegible.found id hself, hfound hrequired, hfound hproviding]

theorem Legible.plain_picture (hlegible : site.Legible catalog)
    (hnamed : ∀ id ∈ site.mentioned, site.Named id) : ∀ block ∈ site.picture, block.Plain := by
  intro block hblock
  obtain ⟨id, hid, rfl⟩ := List.mem_map.mp hblock
  obtain ⟨hself, hedges⟩ := List.forall_mem_cons.mp fun other hother =>
    hlegible.plain other (hnamed other (List.mem_flatMap.mpr ⟨id, hid, hother⟩))
  obtain ⟨hrequired, hproviding⟩ := List.forall_mem_append.mp hedges
  exact ⟨hself, by simpa [sketch] using hrequired, by simpa [sketch] using hproviding⟩

/-- The entries of a picture tell the whole graph. -/
theorem sameGraph_of_entries (hentries : site.manager.dependencies.usages.keys.map site.entry =
      other.manager.dependencies.usages.keys.map other.entry) : site.SameGraph other := by
  have hkeys : site.manager.dependencies.usages.keys = other.manager.dependencies.usages.keys := by
    have hfirst := congrArg (List.map Prod.fst) hentries
    rw [List.map_map, List.map_map] at hfirst
    exact (Option.some_injective PassId).list_map hfirst
  rw [← hkeys] at hentries
  have hentry : ∀ id ∈ site.manager.dependencies.usages, site.entry id = other.entry id := by
    intro id hid
    exact List.map_inj_left.mp hentries id (Std.ExtTreeMap.mem_keys.mpr hid)
  have hinjective := (Option.some_injective PassId).list_map
  refine ⟨fun id => ?_, fun id hid => ?_, fun id hid => ?_⟩
  · rw [← Std.ExtTreeMap.mem_keys, ← Std.ExtTreeMap.mem_keys, hkeys]
  · exact (hinjective (congrArg (·.2.1) (hentry id hid))).symm
  · exact (hinjective (congrArg (·.2.2) (hentry id hid))).symm

theorem Legible.sameGraph (hlegible : site.Legible catalog) (hother : other.Legible catalog)
    (hreport : site.report = .ok text) (hsame : other.report = .ok text) :
    site.SameGraph other := by
  obtain ⟨hnamed, htext⟩ := report_eq_ok_iff.mp hreport
  obtain ⟨hothers, hrendered⟩ := report_eq_ok_iff.mp hsame
  have hpicture : site.picture = other.picture :=
    Block.render_inj (hlegible.plain_picture hnamed) (hother.plain_picture hothers)
      (htext.symm.trans hrendered)
  refine sameGraph_of_entries ?_
  rw [← hlegible.find_picture hnamed, hpicture, hother.find_picture hothers]

/-! ## Runs -/

/-- A run that writes the report ends as the writing does. -/
theorem Dumps.run_dump {ready : Site} {timing : Timing} (hdumps : site.Dumps timing ready) :
    (site.run timing).1 = ready.dump.1.map (fun _ => true) ∧
      (site.run timing).2.manager.stream = ready.dump.2.manager.stream := by
  obtain ⟨hstream, houtcome⟩ := ready.runDump_outcome
  rw [hdumps.run_eq]
  refine ⟨?_, hstream⟩
  rcases houtcome with ⟨hdone, hrun, -⟩ | ⟨halt, hhalt, hrun, -⟩
  · rw [hrun, hdone]
    rfl
  · rw [hrun, hhalt]
    rfl

/-- A report that there is, is published. -/
theorem run_of_report {timing : Timing} (hown : site.Flagged site.manager.own)
    (hcollect : site.collect.1 = .ok ()) (hreport : site.collect.2.report = .ok text) :
    (site.run timing).1 = (site.manager.stream.publish text).1.map (fun _ => true) ∧
      (site.run timing).2.manager.stream = (site.manager.stream.publish text).2 := by
  obtain ⟨ready, hdumps⟩ := exists_dumps hcollect hown timing
  have hdump := hdumps.run_dump
  rwa [dump_eq, hdumps.isReady.report_eq, hreport, hdumps.isReady.stream_eq] at hdump

/-- A report that is refused ends the run, and nothing is written. -/
theorem run_of_refused {timing : Timing} (hown : site.Flagged site.manager.own)
    (hcollect : site.collect.1 = .ok ()) (herror : site.collect.2.report = .error error) :
    (site.run timing).1 = .error (.refused error) ∧
      (site.run timing).2.manager.stream = site.manager.stream := by
  obtain ⟨ready, hdumps⟩ := exists_dumps hcollect hown timing
  have hdump := hdumps.run_dump
  rwa [dump_eq, hdumps.isReady.report_eq, herror, hdumps.isReady.stream_eq] at hdump

/-- Managers of one registry, in which no name has a line feed in it, do not have the same report
unless they have collected the same graph.  A report is refused only for a pass that does not
resolve, and then it leaves the stream alone.  A run of a manager whose own pass is selected
publishes the report, whatever a schedule of the graph would come to. -/
theorem report_faithful :
    (∀ {requests : List Request} {site other : Site} {text : String},
      site.world.catalog = (serve Request.onCatalog requests {}).2 →
      (∀ id, other.name id = site.name id) →
      (∀ id name, site.name id = .ok name → '\n' ∉ name.toList) →
      site.report = .ok text → other.report = .ok text → site.SameGraph other) ∧
    (∀ site : Site,
      ((∃ text, site.report = .ok text) ↔
        ∀ id ∈ site.manager.dependencies.usages, site.Named id ∧
          (∀ required ∈ site.manager.dependencies.required id, site.Named required) ∧
          ∀ provider ∈ site.manager.dependencies.providing id, site.Named provider) ∧
      ∀ error, site.report = .error error →
        ∃ id ∈ site.mentioned, site.world.catalog.find? id = none ∧ error = .unknownPass id ∧
          site.dump = (.error (.refused error), site)) ∧
    ∀ (site : Site) (timing : Timing), site.Flagged site.manager.own →
      site.collect.1 = .ok () →
      (∀ text, site.collect.2.report = .ok text →
        (site.run timing).1 = (site.manager.stream.publish text).1.map (fun _ => true) ∧
        (site.run timing).2.manager.stream = (site.manager.stream.publish text).2 ∧
        (site.manager.stream.Boundless → (site.run timing).1 = .ok true ∧
          (site.run timing).2.manager.stream.contents =
            site.manager.stream.contents ++ text.toUTF8)) ∧
      ∀ error, site.collect.2.report = .error error →
        (site.run timing).1 = .error (.refused error) ∧
          (site.run timing).2.manager.stream = site.manager.stream := by
  refine ⟨?_, fun site => ⟨⟨?_, exists_report⟩, ?_⟩, ?_⟩
  · intro requests site other text hregistry hnames hplain hreport hsame
    -- Names are told apart because registration refuses a second pass of the same name.
    have hunique : site.world.catalog.Unique Card.naming := by
      rw [hregistry]
      exact unique_serve requests Catalog.orderly_empty.names
    have hlegible := legible hunique hplain
    exact hlegible.sameGraph (hlegible.congr hnames) hreport hsame
  · rintro ⟨text, htext⟩ id hid
    have hnamed : ∀ other ∈ site.involved id, site.Named other := fun other hother =>
      (report_eq_ok_iff.mp htext).1 other
        (List.mem_flatMap.mpr ⟨id, Std.ExtTreeMap.mem_keys.mpr hid, hother⟩)
    obtain ⟨hself, hedges⟩ := List.forall_mem_cons.mp hnamed
    exact ⟨hself, List.forall_mem_append.mp hedges⟩
  · intro error herror
    obtain ⟨id, hid, hunknown, hreason⟩ := refused_of_report herror
    exact ⟨id, hid, hunknown, hreason, by rw [dump, herror]⟩
  · intro site timing hown hcollect
    refine ⟨fun text htext => ?_, fun error herror => ?_⟩
    · obtain ⟨hrun, hstream⟩ := run_of_report hown hcollect htext
      refine ⟨hrun, hstream, fun hboundless => ?_⟩
      obtain ⟨after, hpublish, hafter⟩ :=
        (hboundless text.toUTF8.size).publish (Nat.le_refl _)
      rw [hrun, hstream, hpublish]
      exact ⟨rfl, hafter.contents⟩
    · exact run_of_refused hown hcollect herror

/-- Two passes beside that of the manager.  The first requires the second, and the second is called
as if it were a line with an arrow. -/
def couple (second : List Declaration) : List Request :=
  [.register Manager.registration,
    .register { name := "A", arg := "a",
                behaviour := { declarations := [.require ⟨2⟩], run := .done .failure } },
    .register { name := "    <-- A", arg := "b",
                behaviour := { declarations := second, run := .done .failure } },
    .setSelected ⟨0⟩ true, .setSelected ⟨1⟩ true]

def registrar (second : List Declaration) (limit : Nat) : Site where
  manager := {
    own := ⟨0⟩
    managed := (∅ : IdSet).insert ⟨0⟩ |>.insert ⟨1⟩ |>.insert ⟨2⟩
    settings := { scheduleLimit := limit } }
  world := { catalog := (serve Request.onCatalog (couple second) {}).2 }

/-- The graph of the registrar, put together in another order. -/
def copyist : Site where
  manager := {
    own := ⟨1⟩
    dependencies := ({} : Dependencies) |>.insert ⟨2⟩ {}
      |>.insert ⟨1⟩ (.ofDeclarations [.require ⟨2⟩]) |>.insert ⟨0⟩ {} }
  world := (registrar [] 0).world

theorem report_faithful_registrar :
    (registrar [.require ⟨1⟩] 8).collect.2.plan =
      .error (.cyclicDependency ["A", "    <-- A", "A"]) ∧
    ((registrar [.require ⟨1⟩] 8).run {}).1 = .ok true ∧
    ((registrar [.require ⟨1⟩] 8).run {}).2.manager.stream.contents =
      "PassManager\n\nA\n    <--     <-- A\n\n    <-- A\n    <-- A\n\n".toUTF8 ∧
    (registrar [] 0).collect.2.plan = .error (.scheduleLimitExceeded 0) ∧
    ((registrar [] 0).run {}).1 = .ok true ∧
    ((registrar [.require ⟨7⟩] 8).run {}).1 = .error (.refused (.unknownPass ⟨7⟩)) ∧
    (registrar [] 0).collect.2.SameGraph copyist := by
  obtain ⟨hfaithful, -, hruns⟩ := report_faithful
  have hown : ∀ {second : List Declaration} {limit : Nat},
      ((registrar second limit).world.catalog.find? ⟨0⟩).any (·.selected) = true →
      (registrar second limit).Flagged (registrar second limit).manager.own := by
    intro second limit hselected
    rw [Flagged, ← Option.any_eq_true]
    exact ⟨by simp [registrar, Std.ExtTreeSet.mem_insert], hselected⟩
  have hring : (registrar [.require ⟨1⟩] 8).collect.2.report =
      .ok "PassManager\n\nA\n    <--     <-- A\n\n    <-- A\n    <-- A\n\n" := by decide +kernel
  have htree : (registrar [] 0).collect.2.report =
      .ok "PassManager\n\nA\n    <--     <-- A\n\n    <-- A\n\n" := by decide +kernel
  have hcopied : copyist.report =
      .ok "PassManager\n\nA\n    <--     <-- A\n\n    <-- A\n\n" := by decide +kernel
  have hmissing : (registrar [.require ⟨7⟩] 8).collect.2.report = .error (.unknownPass ⟨7⟩) := by
    decide +kernel
  obtain ⟨-, -, hprinted⟩ :=
    (hruns (registrar [.require ⟨1⟩] 8) {} (hown (by decide +kernel)) (by decide +kernel)).1 _ hring
  obtain ⟨hok, hcontents⟩ := hprinted Stream.boundless_buffer
  obtain ⟨-, -, hfinished⟩ :=
    (hruns (registrar [] 0) {} (hown (by decide +kernel)) (by decide +kernel)).1 _ htree
  obtain ⟨hrefused, -⟩ :=
    (hruns (registrar [.require ⟨7⟩] 8) {} (hown (by decide +kernel)) (by decide +kernel)).2 _ hmissing
  -- The two graphs were put together in different orders, but their reports are equal.
  have hsame : (registrar [] 0).collect.2.SameGraph copyist := by
    have hfeedless : ∀ pass ∈ (registrar [] 0).world.catalog.descriptors,
        '\n' ∉ pass.name.toList := by
      decide +kernel
    obtain ⟨selected, dependencies, trace, hcollect⟩ := (registrar [] 0).collect_frame
    refine @hfaithful (couple []) _ _ _ ?_ ?_ ?_ htree hcopied
    · rw [hcollect]
      rfl
    · rw [hcollect]
      exact fun _ => rfl
    · rintro id name hname
      obtain ⟨pass, hfind, rfl⟩ := name_eq_ok_iff.mp hname
      rw [hcollect] at hfind
      exact hfeedless pass (Catalog.mem_descriptors_iff.mpr ⟨id, hfind⟩)
  exact ⟨by decide +kernel, hok, hcontents.trans ByteArray.empty_append, by decide +kernel,
    (hfinished Stream.boundless_buffer).1, hrefused, hsame⟩

end Site

end PassPipeline
