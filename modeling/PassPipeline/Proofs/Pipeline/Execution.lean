import PassPipeline.Proofs.Pipeline.Passes
import PassPipeline.Proofs.Pipeline.Planning

/-!
# Runs of the pipeline

From a text under the identity of the reading pass, a run of the pipeline succeeds, prints the
report and the words as they are asked for, and leaves the words and the counts among its
results (`run_pipeline`).  What else the default results hold makes no difference to that: a
value is overwritten before anything fetches it, since what a pass works with is made in the
slots before.

The invariant is `Standing`.  It tells the results and the output after the slots that are
done, by the products and the lines of their passes; a pass that stands in several slots makes
the same product in each, and only the report and the printing of words have lines, each in one
slot.
-/

namespace PassPipeline.TextPipeline

open Schedule

variable {ids : Ids} {text : String}

/-! ## From slot to slot -/

/-- What holds when the slots of the listed passes are done. -/
structure Ids.Standing (ids : Ids) (text : String) (origin : Manager) (done : List PassId)
    (here : Site) : Prop where
  entered : ids.Entered here.world.catalog
  results : ∀ key : PassId, here.manager.results[key]? =
    (if key ∈ done then ids.product text key else none).or origin.defaultResults[key]?
  contents : here.manager.stream.contents =
    origin.stream.contents ++ (String.join (done.map (ids.printed text))).toUTF8
  accepts : here.manager.stream.Accepts

theorem Ids.Standing.stocked {origin : Manager} {done : List PassId} {here : Site}
    (hstanding : ids.Standing text origin done here)
    (hseeded : origin.defaultResults[ids.read]? = some (.text text)) {id : PassId}
    (hsupplied : ids.Supplied id done) : ids.Stocked text id here.manager.results := by
  have hdistinct := Ids.distinct hstanding.entered.nodup
  constructor
  · rw [hstanding.results, hseeded]
    grind [Ids.product]
  · intro hid
    rw [hstanding.results, if_pos (hsupplied.tokenize hid)]
    simp [Ids.product]
  · intro hid
    rw [hstanding.results, if_pos (hsupplied.stats hid)]
    grind [Ids.product]

/-- A value that the listed passes have made is made again, and no other is changed. -/
theorem product_snoc (origin : Results) (done : List PassId) (id key : PassId) :
    (if key = id then ids.product text id else none).or
        ((if key ∈ done then ids.product text key else none).or origin[key]?) =
      (if key ∈ done ++ [id] then ids.product text key else none).or origin[key]? := by
  by_cases hkey : key = id
  · subst hkey
    cases hproduct : ids.product text key <;> simp
  · simp [hkey]

/-- The next pass does its work, as far as it comes to that. -/
theorem Ids.Standing.works {origin : Manager} {done : List PassId} {here : Site}
    (hstanding : ids.Standing text origin done here)
    (hseeded : origin.defaultResults[ids.read]? = some (.text text)) {id : PassId}
    (hid : id ∈ ids.all) (hsupplied : ids.Supplied id done) {pass : Descriptor}
    (hfind : here.world.catalog.find? id = some pass) :
    ∃ report after, pass.behaviour.run.exec (here.entrance pass) = (some report, after) ∧
      ids.Works text id (here.entrance pass) report after := by
  obtain ⟨registration, hoffers⟩ := hstanding.entered.offers hid
  exact hstanding.entered.works hid hfind (hoffers.id_eq hfind)
    (hstanding.stocked hseeded hsupplied) hstanding.accepts

theorem Ids.Standing.step {origin : Manager} {done : List PassId} {here : Site}
    (hstanding : ids.Standing text origin done here)
    (hseeded : origin.defaultResults[ids.read]? = some (.text text)) (timing : Timing)
    {slot : Nat} {id : PassId} (hid : id ∈ ids.all) (hsupplied : ids.Supplied id done)
    (hleading : slot = 0 → id = ids.read) :
    here.GoesOn timing slot id ∧
      ids.Standing text origin (done ++ [id]) (here.executeSlot timing slot id).2 := by
  obtain ⟨registration, hoffers⟩ := hstanding.entered.offers hid
  have hworks : ∀ {pass : Descriptor}, here.world.catalog.find? id = some pass →
      ∃ report after, pass.behaviour.run.exec (here.entrance pass) = (some report, after) ∧
        ids.Works text id (here.entrance pass) report after :=
    hstanding.works hseeded hid hsupplied
  have hprinted : (String.join ((done ++ [id]).map (ids.printed text))).toUTF8 =
      (String.join (done.map (ids.printed text))).toUTF8 ++ (ids.printed text id).toUTF8 := by
    simp
  rw [Site.GoesOn]
  have hstep := here.slotStep timing slot id
  generalize here.executeSlot timing slot id = result at hstep
  cases hstep with
  | missing hnone =>
      obtain ⟨pass, hfind, -⟩ := hoffers
      cases hfind.symm.trans hnone
  | skipped hfind hsatisfied =>
      have hdistinct := Ids.distinct hstanding.entered.nodup
      -- Only the reading pass can be skipped, and it has no product and prints nothing.
      obtain rfl : id = ids.read := hleading hsatisfied.1
      refine ⟨Or.inl rfl, hstanding.entered, fun key => ?_, ?_, hstanding.accepts⟩
      · rw [← product_snoc, ← hstanding.results]
        exact getElem?_of_no_product _ (by grind [Ids.product]) key
      · have hsilent : ids.printed text ids.read = "" := by grind [Ids.printed]
        rw [hprinted, hsilent, ← ByteArray.append_assoc, ← hstanding.contents]
        exact ByteArray.append_empty.symm
  | panicked hfind hsatisfied hexec =>
      obtain ⟨report, after, hran, -⟩ := hworks hfind
      cases hran.symm.trans hexec
  | failed hfind hsatisfied hexec hfailed =>
      obtain ⟨report, after, hran, hdone⟩ := hworks hfind
      cases hran.symm.trans hexec
      rw [hdone.succeeded, hdone.verified] at hfailed
      cases hfailed
  | @completed pass _ after trace hfind hsatisfied hexec _ _ =>
      obtain ⟨report, _, hran, hdone⟩ := hworks hfind
      cases hexec.symm.trans hran
      have hcatalog : after.world.catalog = here.world.catalog := hdone.catalog_eq
      refine ⟨Or.inr rfl, ?_, fun key => ?_, ?_, hdone.accepts⟩
      · refine Ids.Entered.retained (hcatalog ▸ hstanding.entered) ?_
        exact Catalog.retains_update (fun _ => rfl) fun _ => rfl
      · rw [← product_snoc, ← hstanding.results]
        exact hdone.results key
      · rw [hprinted, ← ByteArray.append_assoc, ← hstanding.contents]
        exact hdone.contents

/-! ## Runs -/

variable {site : Site}

theorem Ids.Hosted.standing_commit (hhosted : ids.Hosted site)
    (haccepts : site.manager.stream.Accepts) {timing : Timing} {ready : Site}
    (hready : site.Ready timing ready) (schedule : List PassId) :
    ids.Standing text site.manager [] (ready.commit timing schedule) := by
  obtain ⟨selected, dependencies, trace, hcommit⟩ := hready.commit_eq schedule
  rw [hcommit]
  refine ⟨hhosted.entered, fun key => ?_, ?_, haccepts⟩
  · simp
  · simp

/-- A slot finds the slots before it done. -/
theorem Ids.Hosted.standing_step (hhosted : ids.Hosted site) (hpicked : ids.Picked site)
    (hseeded : site.manager.defaultResults[ids.read]? = some (.text text)) {timing : Timing}
    {ready : Site} (hexecutes : site.Executes timing ready (ids.agenda site)) {slot : Nat}
    {id : PassId} {here : Site} (hid : (ids.agenda site)[slot]? = some id)
    (hstanding : ids.Standing text site.manager ((ids.agenda site).take slot) here) :
    here.GoesOn timing slot id ∧
      ids.Standing text site.manager ((ids.agenda site).take (slot + 1))
        (here.executeSlot timing slot id).2 := by
  rw [List.take_add_one, hid]
  refine hstanding.step hseeded timing ?_ ?_ ?_
  · exact hhosted.mem_all_of_agenda (List.mem_of_getElem? hid)
  · exact hhosted.wired.supplied hexecutes.ordered hid
  · rintro rfl
    exact hhosted.head_agenda hpicked hid

/-- A run whose schedule fits comes to the end of it, and leaves all of it done. -/
theorem Ids.Hosted.run_standing_of_fits (hhosted : ids.Hosted site) (hpicked : ids.Picked site)
    (hfits : (ids.agenda site).length ≤ site.manager.settings.scheduleLimit)
    (haccepts : site.manager.stream.Accepts)
    (hseeded : site.manager.defaultResults[ids.read]? = some (.text text)) (timing : Timing) :
    (site.run timing).1 = .ok true ∧
      ids.Standing text site.manager (ids.agenda site) (site.run timing).2 := by
  obtain ⟨ready, hexecutes⟩ := hhosted.executes hpicked hfits timing
  obtain ⟨here, hrun, hstanding⟩ := Site.executeFrom_of_invariant
    (fun slot here => ids.Standing text site.manager ((ids.agenda site).take slot) here)
    (hhosted.standing_commit haccepts hexecutes.isReady (ids.agenda site))
    fun slot id here => hhosted.standing_step hpicked hseeded hexecutes
  obtain ⟨observed, hslots⟩ := hexecutes.run_slots hrun
  rw [List.take_length] at hstanding
  rw [hslots]
  exact ⟨rfl, hstanding.entered, hstanding.results, hstanding.contents, hstanding.accepts⟩

/-- Eighteen slots are enough for every schedule. -/
theorem Ids.Hosted.run_standing (hhosted : ids.Hosted site) (hpicked : ids.Picked site)
    (hlimit : 18 ≤ site.manager.settings.scheduleLimit) (haccepts : site.manager.stream.Accepts)
    (hseeded : site.manager.defaultResults[ids.read]? = some (.text text)) (timing : Timing) :
    (site.run timing).1 = .ok true ∧
      ids.Standing text site.manager (ids.agenda site) (site.run timing).2 :=
  hhosted.run_standing_of_fits hpicked (hhosted.length_agenda.trans hlimit) haccepts hseeded timing

/-! ## The output -/

theorem join_map_filter {α : Type} (list : List α) (condition : α → Bool) (text : α → String) :
    String.join ((list.filter condition).map text) =
      String.join (list.map fun item => if condition item then text item else "") := by
  induction list with
  | nil => rfl
  | cons first rest ih =>
      rw [List.map_cons, String.join_cons, ← ih]
      cases hfirst : condition first <;> simp [hfirst]

/-- Of all that a pass unfolds to, only the pass itself can print something. -/
theorem Ids.Unfolded.printed {graph : Graph} (hunfolded : ids.Unfolded graph)
    (hdistinct : ids.all.Nodup) {id : PassId} (hid : id ∈ ids.all) :
    String.join ((graph.unfolding id).map (ids.printed text)) = ids.printed text id := by
  have hne := Ids.distinct hdistinct
  have hread : ids.printed text ids.read = "" := by grind [Ids.printed]
  have htokenize : ids.printed text ids.tokenize = "" := by grind [Ids.printed]
  have hsummary : ids.printed text ids.summary = "" := by grind [Ids.printed]
  have hstats : ids.printed text ids.stats = "" := by grind [Ids.printed]
  rcases mem_all.mp hid with rfl | rfl | rfl | rfl | rfl | rfl
  · simp [hunfolded.read]
  · simp [hunfolded.tokenize, hread]
  · simp [hunfolded.summary, hread, htokenize, hstats]
  · simp [hunfolded.stats, hread, htokenize]
  · simp [hunfolded.emit, hread, htokenize]
  · simp [hunfolded.report, hread, htokenize, hstats, hsummary]

open Classical in
/-- The report is printed before the words, since its pass was registered later. -/
theorem Ids.Hosted.printed_agenda (hhosted : ids.Hosted site) :
    String.join ((ids.agenda site).map (ids.printed text)) =
      (if site.Flagged ids.report then summaryLines text else "") ++
        if site.Flagged ids.emit then tokenLines text else "" := by
  have hdistinct := hhosted.entered.nodup
  have hunfolded := hhosted.wired.unfolded.2
  -- The passes that a chosen one brings along print nothing.
  have hflatten : ∀ list : List PassId, (∀ id ∈ list, id ∈ ids.all) →
      String.join ((list.flatMap site.collect.2.graph.unfolding).map (ids.printed text)) =
        String.join (list.map (ids.printed text)) := by
    intro list hlist
    induction list with
    | nil => rfl
    | cons id rest ih =>
        obtain ⟨hid, hrest⟩ := List.forall_mem_cons.mp hlist
        rw [List.flatMap_cons, List.map_append, String.join_append,
          hunfolded.printed hdistinct hid, ih hrest, List.map_cons, String.join_cons]
  have hflag : ∀ id ∈ ids.all,
      ((site.world.catalog.find? id).any (·.selected) = true ↔ site.Flagged id) := by
    intro id hid
    rw [flagged_iff]
    exact ⟨fun hflag => ⟨hhosted.mem_managed hid, hflag⟩, fun hflagged => hflagged.2⟩
  have hreport := hflag ids.report (by simp [mem_all])
  have hemit := hflag ids.emit (by simp [mem_all])
  have hne := Ids.distinct hdistinct
  rw [Ids.agenda, hflatten _ fun id hid => (hhosted.mem_chosen.mp (List.mem_reverse.mp hid)).1,
    Ids.chosen, ← List.filter_reverse, join_map_filter]
  simp [Ids.all, Ids.printed, hreport, hemit, hne]

open Classical in
/-- Whatever the default results hold beside a text for the reading pass, a run of the pipeline
succeeds.  It prints the report and the words if their passes are selected, and then the results
hold the words and the counts of the text as far as they were needed, and are the default results
otherwise.  The numbers of a catalogue have to suffice for the six passes. -/
theorem run_pipeline {catalog registered : Catalog} (hnumbered : catalog.Numbered)
    (hroom : catalog.size + 6 ≤ 2 ^ 32)
    (hregister : registerAll.run catalog = (.ok ids, registered))
    (hretains : registered.Retains site.world.catalog)
    (hown : site.world.catalog.Offers site.manager.own Manager.registration)
    (hmanaged : ∀ id, id ∈ site.manager.managed ↔ id = site.manager.own ∨ id ∈ ids.all)
    (hpicked : ids.Picked site) (hlimit : 18 ≤ site.manager.settings.scheduleLimit)
    (haccepts : site.manager.stream.Accepts)
    (hseeded : site.manager.defaultResults[ids.read]? = some (.text text)) (timing : Timing) :
    (site.run timing).1 = .ok true ∧
    (site.run timing).2.manager.stream.contents =
      site.manager.stream.contents ++
        ((if site.Flagged ids.report then summaryLines text else "") ++
          if site.Flagged ids.emit then tokenLines text else "").toUTF8 ∧
    (site.run timing).2.manager.results[ids.read]? = some (.text text) ∧
    ∀ key : PassId, (site.run timing).2.manager.results[key]? =
      if key = ids.tokenize ∧ ∃ chosen ∈ ids.all, site.Flagged chosen ∧ chosen ≠ ids.read then
        some (.texts (Text.tokens text))
      else if key = ids.stats ∧
          (site.Flagged ids.summary ∨ site.Flagged ids.stats ∨ site.Flagged ids.report) then
        some (.stats (counts text))
      else site.manager.defaultResults[key]? := by
  have hentered := (registerAll_eq_ok hnumbered hroom hregister).1.retained hretains
  have hhosted : ids.Hosted site := ⟨hentered, hown, hmanaged⟩
  obtain ⟨hok, hstanding⟩ := hhosted.run_standing hpicked hlimit haccepts hseeded timing
  have hdistinct := Ids.distinct hentered.nodup
  refine ⟨hok, ?_, ?_, fun key => ?_⟩
  · rw [hstanding.contents, hhosted.printed_agenda]
  · rw [hstanding.results, hseeded]
    grind [Ids.product]
  · rw [hstanding.results]
    simp only [← hhosted.tokenize_mem_agenda, ← hhosted.stats_mem_agenda]
    -- Two passes have a product, and each keeps it under its own identity.
    by_cases htokenize : key = ids.tokenize
    · subst htokenize
      by_cases hdone : ids.tokenize ∈ ids.agenda site <;> simp [hdone, Ids.product, hdistinct]
    · by_cases hstats : key = ids.stats
      · subst hstats
        by_cases hdone : ids.stats ∈ ids.agenda site <;> simp [hdone, Ids.product, htokenize]
      · simp [Ids.product, htokenize, hstats]

def workshopIds : Ids := ⟨⟨1⟩, ⟨2⟩, ⟨3⟩, ⟨4⟩, ⟨5⟩, ⟨6⟩⟩

def workshopBase : Catalog := ({} : Catalog).install ⟨0⟩ Manager.registration

def workshopCatalog : Catalog := (registerAll.run workshopBase).2

def flag (catalog : Catalog) (id : PassId) : Catalog :=
  catalog.update id ({ · with selected := true })

/-- The report and the words are asked for.  The default results hold a text, and values of
other kinds for the words and for the counts. -/
def workshop : Site where
  manager := {
    own := ⟨0⟩
    managed := (∅ : IdSet).insert ⟨0⟩ |>.insert ⟨1⟩ |>.insert ⟨2⟩ |>.insert ⟨3⟩ |>.insert ⟨4⟩
      |>.insert ⟨5⟩ |>.insert ⟨6⟩
    settings := { scheduleLimit := 18 }
    defaultResults := (∅ : Results) |>.insert ⟨1⟩ (.text "a b a\nc\n")
      |>.insert ⟨2⟩ (.text "stale") |>.insert ⟨4⟩ (.flag true) }
  world := { catalog := flag (flag workshopCatalog ⟨6⟩) ⟨5⟩ }

theorem grows_workshopBase :
    ({} : Catalog).Grows ⟨0⟩ Manager.registration workshopBase := by
  refine Catalog.numbered_empty.register (by decide) ?_
  have hfree : ({} : Catalog).conflict? Manager.registration = none := by decide
  unfold Catalog.register
  rw [hfree]
  rfl

theorem register_workshop :
    registerAll.run workshopBase = (.ok workshopIds, workshopCatalog) :=
  Prod.ext (by decide +kernel) rfl

theorem retains_flag (catalog : Catalog) (id : PassId) : catalog.Retains (flag catalog id) :=
  Catalog.retains_update (fun _ => rfl) fun _ => rfl

theorem retains_workshop : workshopCatalog.Retains workshop.world.catalog :=
  (retains_flag workshopCatalog ⟨6⟩).trans (retains_flag (flag workshopCatalog ⟨6⟩) ⟨5⟩)

theorem hosted_workshop : workshopIds.Hosted workshop := by
  have hbase := grows_workshopBase
  obtain ⟨hentered, hretained⟩ := registerAll_eq_ok hbase.numbered (by decide) register_workshop
  refine ⟨hentered.retained retains_workshop, ?_, fun id => ?_⟩
  · exact (hretained.trans retains_workshop) _ _ hbase.offers
  · simp [workshop, workshopIds, Ids.all, Std.ExtTreeSet.mem_insert]
    grind

theorem picked_workshop : workshopIds.Picked workshop where
  own := mt flagged_iff.mp (by decide +kernel)
  some := ⟨workshopIds.report, by decide, flagged_iff.mpr (by decide +kernel)⟩

theorem run_pipeline_workshop :
    (workshop.run {}).1 = .ok true ∧
    (workshop.run {}).2.manager.stream.contents =
      "lines: 2\nwords: 4\nchars: 8\ndistinct: 3\na\nb\na\nc\n".toUTF8 ∧
    (workshop.run {}).2.manager.results[(⟨2⟩ : PassId)]? = some (.texts ["a", "b", "a", "c"]) := by
  have hreport : workshop.Flagged workshopIds.report := flagged_iff.mpr (by decide +kernel)
  have hemit : workshop.Flagged workshopIds.emit := flagged_iff.mpr (by decide +kernel)
  obtain ⟨hok, hcontents, -, hresults⟩ := run_pipeline grows_workshopBase.numbered (by decide)
    register_workshop retains_workshop hosted_workshop.own hosted_workshop.managed
    picked_workshop (by decide) Stream.accepts_buffer
    (show workshop.manager.defaultResults[(⟨1⟩ : PassId)]? = some (.text "a b a\nc\n") by
      decide +kernel) {}
  have hcounts : counts "a b a\nc\n" = ⟨2, 4, 8, 3⟩ := by decide +kernel
  have htokens : Text.tokens "a b a\nc\n" = ["a", "b", "a", "c"] := by decide +kernel
  have hprinted : summaryLines "a b a\nc\n" ++ tokenLines "a b a\nc\n" =
      "lines: 2\nwords: 4\nchars: 8\ndistinct: 3\na\nb\na\nc\n" := by
    unfold summaryLines tokenLines
    rw [hcounts, htokens]
    rfl
  refine ⟨hok, ?_, ?_⟩
  · rw [hcontents, if_pos hreport, if_pos hemit, hprinted]
    exact ByteArray.empty_append
  · rw [hresults, if_pos ⟨rfl, workshopIds.report, by decide, hreport, by decide⟩, htokens]

end PassPipeline.TextPipeline
