import PassPipeline.Proofs.History.Ledger
import PassPipeline.Proofs.Pipeline.Execution
import PassPipeline.Proofs.Run.Dumping
import PassPipeline.Proofs.Run.Outlets

/-!
# Output that is cut short

A run of the pipeline onto a stream that runs full does what it does otherwise up to the slot
whose lines do not fit (`Hosted.exists_cut`).  Until then it is refused nothing, so that it
arrives there (`Site.Arrives.pours`); there the pass gives up at the first text that is refused,
and the run fails.  What has been accepted is the beginning of what would have been printed.

Only the report and the printing of words have lines.  The words come last, so that their pass
is not completed in a slot before, and its entry in the catalogue stays as it is.
-/

namespace PassPipeline.TextPipeline

open PassPipeline.Stream

variable {ids : Ids} {text : String} {scene : Scene} {room : ℕ}

/-! ## Passes that are cut short -/

theorem exec_writeTokens_cut {tokens : List String} (hlimited : scene.stream.Limited room)
    (hcut : room < (String.join (tokens.map (· ++ "\n"))).toUTF8.size) :
    ∃ error stream,
      (writeTokens tokens).exec scene = (some (.error error), { scene with stream }) ∧
      scene.stream.Received ((String.join (tokens.map (· ++ "\n"))).toUTF8.extract 0 room)
        stream := by
  induction tokens generalizing scene room with
  | nil => exact absurd hcut (Nat.not_lt_zero room)
  | cons token rest ih =>
    have hjoin : (String.join ((token :: rest).map (· ++ "\n"))).toUTF8 =
        (token ++ "\n").toUTF8 ++ (String.join (rest.map (· ++ "\n"))).toUTF8 := by
      simp [ByteArray.append_assoc]
    rw [hjoin] at hcut ⊢
    -- Either this line is the one that is cut, or it leaves less room for the others.
    rcases Nat.lt_or_ge room (token ++ "\n").toUTF8.size with hshort | hfits
    · obtain ⟨reason, stream, hwrite, hstream⟩ := hlimited.writeText_cut hshort
      refine ⟨.io reason, stream, ?_, ?_⟩
      · rw [writeTokens, exec_effect_bind]
        simp only [Scene.perform, hwrite]
        rfl
      · rwa [extract_append_of_le (Nat.le_of_lt hshort)]
    · obtain ⟨stream, hwrite, hstream⟩ := hlimited.writeText hfits
      have hleft := hstream.limited hlimited hfits
      rw [ByteArray.size_append] at hcut
      obtain ⟨error, last, hexec, hlast⟩ := @ih { scene with stream } _ hleft (by omega)
      refine ⟨error, last, ?_, ?_⟩
      · rw [writeTokens, exec_effect_bind]
        simp only [Scene.perform, hwrite]
        exact hexec
      · rw [extract_append_of_size_le hfits]
        exact hstream.trans hlast

theorem exec_emit_cut {tokenize : PassId} {tokens : List String}
    (hlimited : scene.stream.Limited room)
    (hcut : room < (String.join (tokens.map (· ++ "\n"))).toUTF8.size)
    (htokenize : scene.results[tokenize]? = some (.texts tokens)) :
    ∃ stream, (∃ trace, (emit tokenize).exec scene =
        (some .failure, { scene with stream, world := { scene.world with trace } })) ∧
      scene.stream.Received ((String.join (tokens.map (· ++ "\n"))).toUTF8.extract 0 room)
        stream := by
  have hfetch : scene.results.fetch tokenize .texts = .ok tokens :=
    Results.fetch_eq_ok_iff.mpr htokenize
  obtain ⟨error, stream, hexec, hstream⟩ := exec_writeTokens_cut hlimited hcut
  refine ⟨stream, ?_, hstream⟩
  rw [emit, exec_effect_bind]
  simp only [Scene.perform, hfetch]
  rw [Program.exec_bind, hexec]
  exact ⟨_, rfl⟩

theorem exec_report_cut {counting : PassId} {stats : TextStats}
    (hlimited : scene.stream.Limited room) (hcut : room < (showStats stats).toUTF8.size)
    (hstats : scene.results[counting]? = some (.stats stats)) :
    ∃ stream, (report counting).exec scene = (some .failure, { scene with stream }) ∧
      scene.stream.Received ((showStats stats).toUTF8.extract 0 room) stream := by
  obtain ⟨reason, stream, hwrite, hstream⟩ := hlimited.writeText_cut hcut
  refine ⟨stream, exec_report_of_write hstats (.error (.io reason)) ?_, hstream⟩
  rw [Scene.perform, hwrite]

/-- The pass fails, and of its lines those are printed that fit. -/
structure Ids.Breaks (ids : Ids) (text : String) (id : PassId) (room : ℕ) (scene : Scene)
    (report : Report) (after : Scene) : Prop where
  failed : report.succeeded = false
  catalog_eq : after.world.catalog = scene.world.catalog
  received : scene.stream.Received ((ids.printed text id).toUTF8.extract 0 room) after.stream

theorem Ids.Entered.breaks {catalog : Catalog} (hentered : ids.Entered catalog) {id : PassId}
    {pass : Descriptor} (hfind : catalog.find? id = some pass)
    (hstocked : ids.Stocked text id scene.results) (hlimited : scene.stream.Limited room)
    (hcut : room < (ids.printed text id).toUTF8.size) :
    (id = ids.report ∨ id = ids.emit) ∧
      ∃ report after, pass.behaviour.run.exec scene = (some report, after) ∧
        ids.Breaks text id room scene report after := by
  have hdistinct := Ids.distinct hentered.nodup
  by_cases hreport : id = ids.report
  · subst hreport
    have hlines : ids.printed text ids.report = summaryLines text := by simp [Ids.printed]
    rw [hlines, ← showStats_counts] at hcut
    obtain ⟨stream, hexec, hstream⟩ := exec_report_cut hlimited hcut (hstocked.stats (Or.inr rfl))
    rw [hentered.report.run_eq hfind]
    exact ⟨Or.inl rfl, _, _, hexec, rfl, rfl, by rwa [hlines]⟩
  · by_cases hemit : id = ids.emit
    · subst hemit
      have hlines : ids.printed text ids.emit = tokenLines text := by
        simp [Ids.printed, hreport]
      rw [hlines, tokenLines] at hcut
      obtain ⟨stream, ⟨trace, hexec⟩, hstream⟩ :=
        exec_emit_cut hlimited hcut (hstocked.tokenize (Or.inr rfl))
      rw [hentered.emit.run_eq hfind]
      exact ⟨Or.inr rfl, _, _, hexec, rfl, rfl, by rwa [hlines]⟩
    · simp [Ids.printed, hreport, hemit] at hcut

theorem Ids.Entered.name_eq {catalog : Catalog} (hentered : ids.Entered catalog) {id : PassId}
    {pass : Descriptor} (hfind : catalog.find? id = some pass)
    (hprints : id = ids.report ∨ id = ids.emit) : pass.name = "Report" ∨ pass.name = "Emit" := by
  rcases hprints with rfl | rfl
  · obtain ⟨found, hfound, hregistered, -⟩ := hentered.report
    cases hfind.symm.trans hfound
    exact Or.inl (congrArg (·.name) hregistered)
  · obtain ⟨found, hfound, hregistered, -⟩ := hentered.emit
    cases hfind.symm.trans hfound
    exact Or.inr (congrArg (·.name) hregistered)

/-! ## The slot that is cut -/

/-- A slot changes no entry but that of its pass. -/
theorem Ids.Standing.find?_executeSlot {origin : Manager} {done : List PassId} {here : Site}
    (hstanding : ids.Standing text origin done here)
    (hseeded : origin.defaultResults[ids.read]? = some (.text text)) (timing : Timing) (slot : ℕ)
    {id other : PassId} (hid : id ∈ ids.all) (hsupplied : ids.Supplied id done)
    (hother : other ≠ id) :
    (here.executeSlot timing slot id).2.world.catalog.find? other =
      here.world.catalog.find? other := by
  -- No run of a pass of the pipeline writes to the catalogue.  Only its credit does.
  have hworks : ∀ {pass : Descriptor} {result : Option Report × Scene},
      here.world.catalog.find? id = some pass →
        pass.behaviour.run.exec (here.entrance pass) = result →
          result.2.world.catalog = here.world.catalog := by
    intro pass result hfind hexec
    obtain ⟨report, after, hran, hdone⟩ := hstanding.works hseeded hid hsupplied hfind
    cases hexec.symm.trans hran
    exact hdone.catalog_eq
  have hstep := here.slotStep timing slot id
  generalize here.executeSlot timing slot id = result at hstep
  cases hstep with
  | missing hnone => rfl
  | skipped hfind hsatisfied => rfl
  | panicked hfind hsatisfied hexec => exact congrArg (·.find? other) (hworks hfind hexec)
  | failed hfind hsatisfied hexec hfailed => exact congrArg (·.find? other) (hworks hfind hexec)
  | @completed pass report after trace hfind hsatisfied hexec _ _ =>
    obtain ⟨registration, hoffers⟩ := hstanding.entered.offers hid
    have hsame : after.world.catalog = here.world.catalog := hworks hfind hexec
    rw [Catalog.find?_update, hoffers.id_eq hfind, if_neg (Ne.symm hother), hsame]

/-- A slot whose lines do not fit fails, where it would be completed otherwise. -/
theorem Ids.Standing.cut {origin : Manager} {done : List PassId} {here : Site}
    (hstanding : ids.Standing text origin done here)
    (hseeded : origin.defaultResults[ids.read]? = some (.text text)) (timing : Timing) {slot : ℕ}
    {id : PassId} (hid : id ∈ ids.all) (hsupplied : ids.Supplied id done)
    (hleading : slot = 0 → id = ids.read) {stream : Stream} (hlimited : stream.Limited room)
    (hcut : room < (ids.printed text id).toUTF8.size) :
    (id = ids.report ∨ id = ids.emit) ∧
    ∃ pass after, (here.onto stream).Fails timing slot id pass ∧
      (here.onto stream).executeSlot timing slot id = (.failed, after) ∧
      (pass.name = "Report" ∨ pass.name = "Emit") ∧
      stream.Received ((ids.printed text id).toUTF8.extract 0 room) after.manager.stream ∧
      after.world.catalog = here.world.catalog := by
  obtain ⟨registration, pass, hoffered, -⟩ := hstanding.entered.offers hid
  have hfind : (here.onto stream).world.catalog.find? id = some pass := hoffered
  obtain ⟨trace, hentrance⟩ := (here.onto stream).entrance_eq pass
  have hbreaks : (id = ids.report ∨ id = ids.emit) ∧
      ∃ report after, pass.behaviour.run.exec ((here.onto stream).entrance pass) =
        (some report, after) ∧
          ids.Breaks text id room ((here.onto stream).entrance pass) report after := by
    rw [hentrance]
    exact hstanding.entered.breaks hfind (hstanding.stocked hseeded hsupplied) hlimited hcut
  obtain ⟨hprints, report, scene, hexec, hbroken⟩ := hbreaks
  -- A leading slot may be skipped, but it belongs to the reading pass, which prints nothing.
  have hunsatisfied : ¬ (here.onto stream).Satisfied slot id := by
    rintro ⟨hfirst, -⟩
    have hne := Ids.distinct hstanding.entered.nodup
    rw [hleading hfirst] at hprints
    grind
  have hfailed : (report.succeeded && report.verified) = false := by rw [hbroken.failed]; rfl
  obtain ⟨observed, hinvoke⟩ := Site.invoke_of_failed timing slot hexec hfailed
  have hslot : (here.onto stream).executeSlot timing slot id = _ :=
    (Site.executeSlot_of_unsatisfied timing hfind hunsatisfied).trans hinvoke
  have hreceived := hbroken.received
  have hcatalog := hbroken.catalog_eq
  rw [hentrance] at hreceived hcatalog
  have hname := hstanding.entered.name_eq hoffered hprints
  refine ⟨hprints, pass, _, ?_, hslot, hname, hreceived, hcatalog⟩
  exact ⟨hfind, hunsatisfied, congrArg Prod.fst hslot, report, congrArg Prod.fst hexec, hfailed⟩

variable {site : Site}

/-- The passes that print stand in a schedule in the order in which they print. -/
theorem Ids.Hosted.filter_agenda (hhosted : ids.Hosted site) :
    ((ids.agenda site).filter fun id => id = ids.report ∨ id = ids.emit).Sublist
      [ids.report, ids.emit] := by
  have hne := Ids.distinct hhosted.entered.nodup
  have hunfolded := hhosted.wired.unfolded.2
  have hsub := (ids.chosen_sublist site).reverse.flatMap fun id =>
    (site.collect.2.graph.unfolding id).filter fun id => id = ids.report ∨ id = ids.emit
  rw [Ids.agenda, List.filter_flatMap]
  refine hsub.trans ?_
  simp [Ids.all, hunfolded.read, hunfolded.tokenize, hunfolded.summary, hunfolded.stats,
    hunfolded.emit, hunfolded.report, hne]

theorem Ids.Hosted.emit_notMem_take (hhosted : ids.Hosted site) {slot : ℕ} {id : PassId}
    (hid : (ids.agenda site)[slot]? = some id) (hprints : id = ids.report ∨ id = ids.emit) :
    ids.emit ∉ (ids.agenda site).take slot := by
  intro hemit
  have hboth : [ids.emit, id].Sublist (ids.agenda site) := by
    have hdrop : id ∈ (ids.agenda site).drop slot := by
      rw [List.mem_iff_getElem?]
      exact ⟨0, by rw [List.getElem?_drop, Nat.add_zero, hid]⟩
    have happend := (List.singleton_sublist.mpr hemit).append (List.singleton_sublist.mpr hdrop)
    rwa [List.take_append_drop] at happend
  have hkept : [ids.emit, id].filter (fun id => id = ids.report ∨ id = ids.emit) =
      [ids.emit, id] := by
    simp [hprints]
  have horder := (hkept ▸ hboth.filter _).trans hhosted.filter_agenda
  have hsame := (List.cons.inj (horder.eq_of_length rfl)).1
  have hne := Ids.distinct hhosted.entered.nodup
  grind

theorem exists_crossing (size : ℕ → ℕ) {last : ℕ} (hfirst : size 0 ≤ room)
    (hlast : room < size last) : ∃ slot < last, size slot ≤ room ∧ room < size (slot + 1) := by
  induction last with
  | zero => omega
  | succ last ih =>
    by_cases hbefore : room < size last
    · obtain ⟨slot, hslot, hcrossing⟩ := ih hbefore
      exact ⟨slot, Nat.lt_succ_of_lt hslot, hcrossing⟩
    · exact ⟨last, Nat.lt_succ_self last, Nat.le_of_not_lt hbefore, hlast⟩

/-- What the slots before one of a schedule print. -/
def Ids.printedBefore (ids : Ids) (text : String) (schedule : List PassId) (slot : ℕ) : ByteArray :=
  (String.join ((schedule.take slot).map (ids.printed text))).toUTF8

variable {schedule : List PassId}

theorem printedBefore_succ {slot : ℕ} {id : PassId} (hid : schedule[slot]? = some id) :
    ids.printedBefore text schedule (slot + 1) =
      ids.printedBefore text schedule slot ++ (ids.printed text id).toUTF8 := by
  simp [Ids.printedBefore, List.take_add_one, hid]

theorem exists_printedBefore_append (ids : Ids) (text : String) (schedule : List PassId)
    (slot : ℕ) :
    ∃ rest, (String.join (schedule.map (ids.printed text))).toUTF8 =
      ids.printedBefore text schedule slot ++ rest := by
  refine ⟨(String.join ((schedule.drop slot).map (ids.printed text))).toUTF8, ?_⟩
  have hjoin : String.join (schedule.map (ids.printed text)) =
      String.join ((schedule.take slot).map (ids.printed text)) ++
        String.join ((schedule.drop slot).map (ids.printed text)) := by
    rw [← String.join_append, ← List.map_append, List.take_append_drop]
  rw [hjoin]
  exact String.toByteArray_append

/-- If there is no room for all of the output then there is a slot whose lines do not fit. -/
theorem exists_overflow
    (hcut : room < (String.join (schedule.map (ids.printed text))).toUTF8.size) :
    ∃ slot id, schedule[slot]? = some id ∧
      (ids.printedBefore text schedule slot).size ≤ room ∧
      room < (ids.printedBefore text schedule slot).size + (ids.printed text id).toUTF8.size := by
  have hlast : room < (ids.printedBefore text schedule schedule.length).size := by
    rw [Ids.printedBefore, List.take_length]
    exact hcut
  obtain ⟨slot, hslot, hfits, hshort⟩ := exists_crossing
    (fun slot => (ids.printedBefore text schedule slot).size) (Nat.zero_le room) hlast
  have hid : schedule[slot]? = some schedule[slot] := List.getElem?_eq_getElem hslot
  refine ⟨slot, schedule[slot], hid, hfits, ?_⟩
  rwa [printedBefore_succ hid, ByteArray.size_append] at hshort

/-- The execution arrives at every slot, and finds the slots before done.  The pass that prints the
words has its entry as it was, unless it has been called. -/
theorem Ids.Hosted.exists_standing (hhosted : ids.Hosted site) (hpicked : ids.Picked site)
    (haccepts : site.manager.stream.Accepts)
    (hseeded : site.manager.defaultResults[ids.read]? = some (.text text)) {timing : Timing}
    {ready : Site} (hexecutes : site.Executes timing ready (ids.agenda site)) {slot : ℕ}
    (hslot : slot ≤ (ids.agenda site).length) :
    ∃ here, Site.Arrives timing (ids.agenda site) (ready.commit timing (ids.agenda site)) slot here ∧
      ids.Standing text site.manager ((ids.agenda site).take slot) here ∧
      (ids.emit ∉ (ids.agenda site).take slot →
        here.world.catalog.find? ids.emit = site.world.catalog.find? ids.emit) := by
  obtain ⟨selected, dependencies, trace, hcommit⟩ := hexecutes.isReady.commit_eq (ids.agenda site)
  refine Site.arrives_of_invariant
    (fun slot here =>
      ids.Standing text site.manager ((ids.agenda site).take slot) here ∧
        (ids.emit ∉ (ids.agenda site).take slot →
          here.world.catalog.find? ids.emit = site.world.catalog.find? ids.emit))
    ⟨hhosted.standing_commit haccepts hexecutes.isReady _, fun _ => by rw [hcommit]⟩ ?_ hslot
  rintro slot id here hid ⟨hstanding, hemit⟩
  obtain ⟨hgoesOn, hdone⟩ := hhosted.standing_step hpicked hseeded hexecutes hid hstanding
  refine ⟨hgoesOn, hdone, fun hnot => ?_⟩
  rw [List.take_add_one, hid, Option.toList_some, List.mem_append, List.mem_singleton,
    not_or] at hnot
  rw [hstanding.find?_executeSlot hseeded timing slot
    (hhosted.mem_all_of_agenda (List.mem_of_getElem? hid))
    (hhosted.wired.supplied hexecutes.ordered hid) hnot.2]
  exact hemit hnot.1

/-- Onto a stream without room for all of the output, the execution arrives at a slot that
fails, of a pass that prints. -/
theorem Ids.Hosted.exists_cut (hhosted : ids.Hosted site) (hpicked : ids.Picked site)
    (hboundless : site.manager.stream.Boundless)
    (hseeded : site.manager.defaultResults[ids.read]? = some (.text text)) {timing : Timing}
    {ready : Site} (hexecutes : site.Executes timing ready (ids.agenda site)) {stream : Stream}
    (hlimited : stream.Limited room) {output : ByteArray}
    (houtput : output = (String.join ((ids.agenda site).map (ids.printed text))).toUTF8)
    (hcut : room < output.size) :
    ∃ slot id here pass after, (ids.agenda site)[slot]? = some id ∧
      Site.Arrives timing (ids.agenda site) ((ready.onto stream).commit timing (ids.agenda site))
        slot here ∧
      here.Fails timing slot id pass ∧ here.executeSlot timing slot id = (.failed, after) ∧
      (pass.name = "Report" ∨ pass.name = "Emit") ∧
      stream.Received (output.extract 0 room) after.manager.stream ∧
      after.world.catalog.find? ids.emit = site.world.catalog.find? ids.emit := by
  obtain ⟨slot, id, hid, hfits, hshort⟩ := exists_overflow (houtput ▸ hcut)
  have hslot : slot < (ids.agenda site).length := (List.getElem?_eq_some_iff.mp hid).1
  -- Up to there the run goes as it goes onto its own stream.
  obtain ⟨full, harrives, hstanding, hemit⟩ :=
    hhosted.exists_standing hpicked hboundless.accepts hseeded hexecutes (Nat.le_of_lt hslot)
  obtain ⟨selected, dependencies, trace, hcommit⟩ := hexecutes.isReady.commit_eq (ids.agenda site)
  have hstart : (ready.commit timing (ids.agenda site)).manager.stream = site.manager.stream := by
    rw [hcommit]
  obtain ⟨written, hwritten, hother⟩ := harrives.pours (by rw [hstart]; exact hboundless)
  obtain rfl : ids.printedBefore text (ids.agenda site) slot = written := by
    have hcontents := hwritten.contents
    rw [hstart, hstanding.contents] at hcontents
    exact (ByteArray.append_right_inj _).mp hcontents
  obtain ⟨later, hlater, hthere⟩ := hother stream (hlimited.toSpares.mono hfits)
  -- There the lines of the pass do not fit.
  have hleading : slot = 0 → id = ids.read := fun hfirst =>
    hhosted.head_agenda hpicked (hfirst ▸ hid)
  obtain ⟨hprints, pass, after, hfails, hfailed, hname, hreceived, hcatalog⟩ :=
    hstanding.cut hseeded timing (hhosted.mem_all_of_agenda (List.mem_of_getElem? hid))
      (hhosted.wired.supplied hexecutes.ordered hid) hleading (hlater.limited hlimited hfits)
      (by omega)
  refine ⟨slot, id, _, pass, after, hid, hthere, hfails, hfailed, hname, ?_, ?_⟩
  · obtain ⟨rest, hrest⟩ := exists_printedBefore_append ids text (ids.agenda site) (slot + 1)
    rw [printedBefore_succ hid] at hrest
    rw [houtput, hrest, extract_append_of_le (by rw [ByteArray.size_append]; omega),
      extract_append_of_size_le hfits]
    exact hlater.trans hreceived
  · rw [hcatalog]
    exact hemit (hhosted.emit_notMem_take hid hprints)

end PassPipeline.TextPipeline
