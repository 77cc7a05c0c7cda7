import PassPipeline.Proofs.Pipeline.Sources
import PassPipeline.Proofs.Text.Lines

/-!
# Words printed and read again

The splitting pass stores the words of a text, and the printing pass gives each a line of its own.
What is printed has the same words as the text, so a run that prints words and is given its own
output as its text prints the same output again (`emit_round_trip`).

Only the printing pass is flagged then, and the schedule has the three slots for reading,
splitting and printing.  With fewer slots allowed the run is refused before anything is printed;
its output is then empty, and so is that of the run after it.
-/

namespace PassPipeline

namespace Site

/-- The run returns the result, and its output is the text. -/
structure Writes (site : Site) (timing : Timing) (result : Except Halt Bool)
    (output : String) : Prop where
  result : (site.run timing).1 = result
  contents : (site.run timing).2.manager.stream.contents =
    site.manager.stream.contents ++ output.toUTF8

theorem Writes.output_unique {site : Site} {timing : Timing} {result other : Except Halt Bool}
    {output printed : String} (hfirst : site.Writes timing result output)
    (hsecond : site.Writes timing other printed) : other = result ∧ printed = output := by
  refine ⟨hsecond.result.symm.trans hfirst.result, ?_⟩
  have hcontents := hsecond.contents.symm.trans hfirst.contents
  rwa [ByteArray.append_right_inj, String.toUTF8_eq_toByteArray, String.toUTF8_eq_toByteArray,
    String.toByteArray_inj] at hcontents

/-- The text is a default value of the reading pass, or it is on the standard input and there is
no default value. -/
def Given (site : Site) (read : PassId) (text : String) : Prop :=
  site.manager.defaultResults[read]? = some (.text text) ∨
    site.manager.defaultResults[read]? = none ∧ site.world.input = text.toUTF8

/-- A site is one of the two that have the text in different places. -/
theorem Given.eq_or_eq {site : Site} {read : PassId} {text : String}
    (hgiven : site.Given read text) :
    site.seeded read text = site ∨ site.fed read text.toUTF8 = site := by
  rcases hgiven with hdefault | ⟨hnone, hinput⟩
  · left
    have hresults : site.manager.defaultResults.insert read (.text text) =
        site.manager.defaultResults := by
      apply Std.ExtTreeMap.ext_getElem?
      intro key
      rw [Std.ExtTreeMap.getElem?_insert]
      split
      · next hkey => rw [← hdefault, Std.LawfulEqCmp.eq_of_compare hkey]
      · rfl
    rw [seeded, hresults]
  · right
    have hresults : site.manager.defaultResults.erase read = site.manager.defaultResults := by
      apply Std.ExtTreeMap.ext_getElem?
      intro key
      rw [Std.ExtTreeMap.getElem?_erase]
      split
      · next hkey => rw [← hnone, Std.LawfulEqCmp.eq_of_compare hkey]
      · rfl
    rw [fed, hresults, ← hinput]

end Site

namespace TextPipeline

variable {ids : Ids} {site : Site} {text : String}

/-! ## The two passes -/

/-- Wherever it finds the text, the splitting pass stores the tokens. -/
def Splits (text : String) (tokens : List String) : Prop :=
  ∀ (read : PassId) (scene : Scene), scene.results[read]? = some (.text text) →
    ∃ trace, (tokenize read).exec scene =
      (some { succeeded := true },
        { scene with
          results := scene.results.insert scene.self (.texts tokens)
          world := { scene.world with trace } })

/-- Wherever it finds the tokens, the printing pass writes the text, if nothing is refused. -/
def Prints (tokens : List String) (printed : String) : Prop :=
  ∀ (tokenize : PassId) (scene : Scene), scene.stream.Accepts →
    scene.results[tokenize]? = some (.texts tokens) →
    ∃ stream, (emit tokenize).exec scene =
        (some { succeeded := true, changes := UInt64.ofNat tokens.length },
          { scene with stream }) ∧
      stream.contents = scene.stream.contents ++ printed.toUTF8

theorem splits_words (text : String) : Splits text (Text.words text) :=
  fun _ _ hread => exec_tokenize hread

theorem prints_unlines (tokens : List String) : Prints tokens (Text.unlines tokens) := by
  intro tokenize scene haccepts htokenize
  obtain ⟨stream, hexec, hcontents, -⟩ := exec_emit haccepts htokenize
  exact ⟨stream, hexec, hcontents⟩

theorem tokenLines_eq (text : String) : tokenLines text = Text.unlines (Text.words text) := by
  rw [tokenLines, Text.words_eq]
  rfl

/-! ## The run that prints words -/

/-- The manager is asked for the words of the text, and for nothing else. -/
structure Ids.Emits (ids : Ids) (text : String) (site : Site) : Prop where
  hosted : ids.Hosted site
  flagged : ∀ id, site.Flagged id ↔ id = ids.emit
  accepts : site.manager.stream.Accepts
  given : site.Given ids.read text

/-- The names of the six passes are not that of the manager's own pass. -/
theorem Ids.Hosted.own_notMem (hhosted : ids.Hosted site) : site.manager.own ∉ ids.all := by
  have hentered := hhosted.entered
  obtain ⟨own, hown, hregistration, -⟩ := hhosted.own
  have hname : own.name = Manager.registration.name := congrArg Registration.name hregistration
  have hother : ∀ {id : PassId} {registration : Registration},
      registration.name ≠ Manager.registration.name →
      site.world.catalog.Offers id registration → site.manager.own ≠ id := by
    rintro id registration hdiffers ⟨pass, hfind, rfl, -⟩ rfl
    cases hown.symm.trans hfind
    exact hdiffers hname
  rw [mem_all]
  rintro (hread | htokenize | hsummary | hstats | hemit | hreport)
  · exact hother (by simp [readRegistration, Manager.registration]) hentered.read hread
  · exact hother (by simp [tokenizeRegistration, Manager.registration]) hentered.tokenize htokenize
  · exact hother (by simp [introducedRegistration, summaryRegistration, Manager.registration])
      hentered.summary hsummary
  · exact hother (by simp [statsRegistration, Manager.registration]) hentered.stats hstats
  · exact hother (by simp [emitRegistration, Manager.registration]) hentered.emit hemit
  · exact hother (by simp [reportRegistration, Manager.registration]) hentered.report hreport

theorem Ids.Emits.picked (hemits : ids.Emits text site) : ids.Picked site where
  own hown := hemits.hosted.own_notMem ((hemits.flagged _).mp hown ▸ by simp [mem_all])
  some := ⟨ids.emit, by simp [mem_all], (hemits.flagged _).mpr rfl⟩

theorem Ids.Emits.agenda_eq (hemits : ids.Emits text site) :
    ids.agenda site = [ids.read, ids.tokenize, ids.emit] := by
  have hdistinct := Ids.distinct hemits.hosted.entered.nodup
  have hflag : ∀ id ∈ ids.all,
      (site.world.catalog.find? id).any (·.selected) = decide (id = ids.emit) := by
    intro id hid
    rw [Bool.eq_iff_iff, decide_eq_true_iff, ← hemits.flagged, flagged_iff]
    exact ⟨fun hflag => ⟨hemits.hosted.mem_managed hid, hflag⟩, fun hflagged => hflagged.2⟩
  have hchosen : ids.chosen site = [ids.emit] := by
    rw [Ids.chosen, List.filter_congr hflag]
    simp [Ids.all, hdistinct, hdistinct.2.2.2.2.symm]
  rw [Ids.agenda, hchosen, List.reverse_singleton, List.flatMap_singleton,
    hemits.hosted.wired.unfolded.2.emit]

theorem Ids.Emits.seeded (hemits : ids.Emits text site) :
    ids.Emits text (site.seeded ids.read text) where
  hosted := hemits.hosted.seeded text
  flagged := hemits.flagged
  accepts := hemits.accepts
  given := Or.inl Std.ExtTreeMap.getElem?_insert_self

/-- Three slots are enough. -/
theorem Ids.Emits.writes (hemits : ids.Emits text site)
    (hlimit : 3 ≤ site.manager.settings.scheduleLimit) (timing : Timing) :
    site.Writes timing (.ok true) (Text.unlines (Text.words text)) := by
  have hfits : (ids.agenda site).length ≤ site.manager.settings.scheduleLimit := by
    rw [hemits.agenda_eq]
    exact hlimit
  have hseeded : (site.seeded ids.read text).Writes timing (.ok true)
      (Text.unlines (Text.words text)) := by
    have hagenda := hemits.seeded.agenda_eq
    obtain ⟨hok, hstanding⟩ := hemits.seeded.hosted.run_standing_of_fits hemits.seeded.picked
      (by rw [hagenda]; exact hlimit) hemits.accepts Std.ExtTreeMap.getElem?_insert_self timing
    have hdistinct := Ids.distinct hemits.hosted.entered.nodup
    have hcontents := hstanding.contents
    rw [hagenda] at hcontents
    refine ⟨hok, hcontents.trans ?_⟩
    simp [Ids.printed, hdistinct, tokenLines_eq]
  rcases hemits.given.eq_or_eq with hsite | hsite
  · rwa [hsite] at hseeded
  · obtain ⟨hmatches, -⟩ := hemits.hosted.read_once hemits.picked hfits text timing timing
    rw [hsite] at hmatches
    exact ⟨hmatches.result.trans hseeded.result, by rw [hmatches.stream, hseeded.contents]; rfl⟩

theorem Ids.Emits.writes_of_tight (hemits : ids.Emits text site)
    (hlimit : site.manager.settings.scheduleLimit < 3) (timing : Timing) :
    site.Writes timing
      (.error (.refused (.scheduleLimitExceeded site.manager.settings.scheduleLimit))) "" := by
  have hrefuses := hemits.hosted.refuses hemits.picked
    (by rw [hemits.agenda_eq]; exact hlimit) timing
  obtain ⟨selected, dependencies, hmanager⟩ := hrefuses.manager
  exact ⟨hrefuses.result, by rw [hmanager]; simp⟩

/-- A run that is given the output of another has the same outcome, if their limits agree. -/
theorem Ids.Emits.writes_again {others : Ids} {again : Site} {timing timing' : Timing}
    {result : Except Halt Bool} {output : String} (hemits : ids.Emits text site)
    (hagain : others.Emits output again)
    (hlimit : again.manager.settings.scheduleLimit = site.manager.settings.scheduleLimit)
    (hwrites : site.Writes timing result output) : again.Writes timing' result output := by
  by_cases hfits : 3 ≤ site.manager.settings.scheduleLimit
  · obtain ⟨rfl, rfl⟩ := (hemits.writes hfits timing).output_unique hwrites
    have hsame : Text.words (Text.unlines (Text.words text)) = Text.words text :=
      Text.words_unlines fun _ hmem => Text.isWord_of_mem_words hmem
    have hrewrites := hagain.writes (hlimit ▸ hfits) timing'
    rwa [hsame] at hrewrites
  · have htight := Nat.lt_of_not_le hfits
    obtain ⟨rfl, rfl⟩ := (hemits.writes_of_tight htight timing).output_unique hwrites
    rw [← hlimit]
    exact hagain.writes_of_tight (hlimit ▸ htight) timing'

/-! ## There and back -/

/-- What the splitting pass stores for a text are its maximal runs of characters that are not
blank.  What the printing pass writes for them has them as its lines, and is split into them
again.  A run that prints the words of its own output repeats it. -/
theorem emit_round_trip (text : String) :
    ∃ tokens printed, Splits text tokens ∧ Prints tokens printed ∧ Text.Cuts text tokens ∧
      Text.lines printed = tokens ∧ Splits printed tokens ∧
      (∀ {ids : Ids} {site : Site}, ids.Emits text site →
        3 ≤ site.manager.settings.scheduleLimit →
        ∀ timing, site.Writes timing (.ok true) printed) ∧
      ∀ {ids others : Ids} {site again : Site} {output : String}, ids.Emits text site →
        others.Emits output again →
        again.manager.settings.scheduleLimit = site.manager.settings.scheduleLimit →
        ∀ timing timing' result,
          site.Writes timing result output → again.Writes timing' result output := by
  have hwords : ∀ token ∈ Text.words text, Text.IsWord token.toList :=
    fun _ hmem => Text.isWord_of_mem_words hmem
  refine ⟨Text.words text, Text.unlines (Text.words text), splits_words text, prints_unlines _,
    Text.cuts_words text, Text.lines_unlines hwords, ?_, fun hemits => hemits.writes, ?_⟩
  · have hsplits := splits_words (Text.unlines (Text.words text))
    rwa [Text.words_unlines hwords] at hsplits
  · exact fun hemits hagain hlimit timing timing' result => hemits.writes_again hagain hlimit

/-- The words are asked for, and there are as many slots as that takes. -/
def printer (defaults : Results) (input : String) : Site where
  manager := { workshop.manager with
    settings := { scheduleLimit := 3 }
    defaultResults := defaults }
  world := { catalog := flag workshopCatalog ⟨5⟩, input := input.toUTF8 }

theorem emits_printer {defaults : Results} {input text : String}
    (hgiven : (printer defaults input).Given ⟨1⟩ text) :
    workshopIds.Emits text (printer defaults input) where
  hosted := by
    have hbase := grows_workshopBase
    obtain ⟨hentered, hretained⟩ :=
      registerAll_eq_ok hbase.numbered (by decide) register_workshop
    have hretains : workshopCatalog.Retains (printer defaults input).world.catalog :=
      retains_flag workshopCatalog ⟨5⟩
    exact ⟨hentered.retained hretains, (hretained.trans hretains) _ _ hbase.offers,
      hosted_workshop.managed⟩
  flagged id := by
    have hmanaged : id ∈ workshop.manager.managed ↔ id ∈ workshop.manager.own :: workshopIds.all :=
      (hosted_workshop.managed id).trans List.mem_cons.symm
    have hflags : ∀ id ∈ workshop.manager.own :: workshopIds.all,
        ((flag workshopCatalog ⟨5⟩).find? id).any (·.selected) = true ↔ id = workshopIds.emit := by
      decide +kernel
    rw [flagged_iff]
    constructor
    · rintro ⟨hid, hselected⟩
      exact (hflags id (hmanaged.mp hid)).mp hselected
    · rintro rfl
      exact ⟨hmanaged.mpr (by decide), (hflags _ (by decide)).mpr rfl⟩
  accepts := Stream.accepts_buffer
  given := hgiven

theorem emit_round_trip_printer :
    (printer ((∅ : Results).insert ⟨1⟩ (.text "\u00a0a b\r\n")) "").Writes {} (.ok true) "a\nb\n" ∧
      (printer ∅ "a\nb\n").Writes {} (.ok true) "a\nb\n" := by
  obtain ⟨tokens, printed, -, -, -, -, -, hwrites, hagain⟩ := emit_round_trip "\u00a0a b\r\n"
  have hemits := @emits_printer ((∅ : Results).insert ⟨1⟩ (.text "\u00a0a b\r\n")) ""
    "\u00a0a b\r\n" (Or.inl Std.ExtTreeMap.getElem?_insert_self)
  have hprinted : printed = "a\nb\n" := by
    have hlines : Text.unlines (Text.words "\u00a0a b\r\n") = "a\nb\n" := by decide +kernel
    rw [← hlines]
    exact ((hemits.writes (by decide) {}).output_unique (hwrites hemits (by decide) {})).2
  have hfirst := hwrites hemits (by decide) {}
  rw [hprinted] at hfirst
  have hfed : (printer ∅ "a\nb\n").Given ⟨1⟩ "a\nb\n" :=
    Or.inr ⟨Std.ExtTreeMap.getElem?_empty, rfl⟩
  exact ⟨hfirst, hagain hemits (emits_printer hfed) rfl {} {} _ hfirst⟩

end TextPipeline

end PassPipeline
