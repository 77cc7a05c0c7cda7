import PassPipeline.Proofs.Pipeline.Registration
import PassPipeline.Proofs.Stream.Writing
import PassPipeline.Proofs.Text.Counting

/-!
# What the six passes do

Each pass is carried out once, from results that hold what it works with.  A pass fetches its
values by kind, so that a value of another kind under the right identity would stop it; what
else the results hold makes no difference.

`Works` tells the six outcomes in one form: a pass adds its product to the results, prints its
lines to a stream that accepts everything, and leaves the catalogue alone.
-/

namespace PassPipeline.TextPipeline

open Program (effect)

variable {scene : Scene}

theorem exec_effect_bind {α : Type} (first : Effect) (next : first.Answer → Program α)
    (scene : Scene) :
    (effect first >>= next).exec scene =
      match scene.perform first with
      | (some answer, after) => (next answer).exec after
      | (none, after) => (none, after) := by
  rw [effect, Program.perform_bind, Program.exec]
  rfl

/-! ## Programs -/

theorem exec_read (hself : scene.results.contains scene.self = true) :
    ∃ trace, read.exec scene =
      (some { succeeded := true }, { scene with world := { scene.world with trace } }) := by
  rw [read, exec_effect_bind]
  simp only [Scene.perform]
  rw [exec_effect_bind]
  simp only [Scene.perform, hself, if_true]
  exact ⟨_, rfl⟩

theorem exec_tokenize {read : PassId} {text : String}
    (hread : scene.results[read]? = some (.text text)) :
    ∃ trace, (tokenize read).exec scene =
      (some { succeeded := true },
        { scene with
          results := scene.results.insert scene.self (.texts (Text.words text))
          world := { scene.world with trace } }) := by
  have hfetch : scene.results.fetch read .text = .ok text := Results.fetch_eq_ok_iff.mpr hread
  rw [tokenize, exec_effect_bind]
  simp only [Scene.perform, hfetch]
  exact ⟨_, rfl⟩

theorem exec_count {read tokenize : PassId} {text : String} {tokens : List String}
    (hread : scene.results[read]? = some (.text text))
    (htokenize : scene.results[tokenize]? = some (.texts tokens)) :
    (count read tokenize).exec scene =
      (some { succeeded := true },
        { scene with results := scene.results.insert scene.self (.stats (stats text tokens)) }) := by
  have htext : scene.results.fetch read .text = .ok text := Results.fetch_eq_ok_iff.mpr hread
  have htokens : scene.results.fetch tokenize .texts = .ok tokens :=
    Results.fetch_eq_ok_iff.mpr htokenize
  rw [count, exec_effect_bind]
  simp only [Scene.perform]
  rw [exec_effect_bind]
  simp only [Scene.perform, htext, htokens]
  rfl

theorem exec_summary {counting : PassId} {stats : TextStats}
    (hstats : scene.results[counting]? = some (.stats stats)) :
    (summary (some counting)).exec scene = (some { succeeded := true }, scene) := by
  have hfetch : scene.results.fetch counting .stats = .ok stats :=
    Results.fetch_eq_ok_iff.mpr hstats
  simp only [summary]
  rw [exec_effect_bind]
  simp only [Scene.perform, hfetch]
  rfl

theorem exec_writeTokens (haccepts : scene.stream.Accepts) (tokens : List String) :
    ∃ stream, (writeTokens tokens).exec scene = (some (.ok ()), { scene with stream }) ∧
      stream.contents =
        scene.stream.contents ++ (String.join (tokens.map (· ++ "\n"))).toUTF8 ∧
      stream.Accepts := by
  induction tokens generalizing scene with
  | nil => exact ⟨scene.stream, rfl, by simp, haccepts⟩
  | cons token rest ih =>
      obtain ⟨written, hwrite, hcontents, hwritten⟩ := haccepts.writeText (token ++ "\n")
      obtain ⟨stream, hexec, hrest, hstream⟩ := @ih { scene with stream := written } hwritten
      refine ⟨stream, ?_, ?_, hstream⟩
      · rw [writeTokens, exec_effect_bind]
        simp only [Scene.perform, hwrite]
        exact hexec
      · rw [hrest, hcontents, List.map_cons, String.join_cons]
        simp [ByteArray.append_assoc]

theorem exec_emit {tokenize : PassId} {tokens : List String} (haccepts : scene.stream.Accepts)
    (htokenize : scene.results[tokenize]? = some (.texts tokens)) :
    ∃ stream, (emit tokenize).exec scene =
        (some { succeeded := true, changes := UInt64.ofNat tokens.length },
          { scene with stream }) ∧
      stream.contents =
        scene.stream.contents ++ (String.join (tokens.map (· ++ "\n"))).toUTF8 ∧
      stream.Accepts := by
  have hfetch : scene.results.fetch tokenize .texts = .ok tokens :=
    Results.fetch_eq_ok_iff.mpr htokenize
  obtain ⟨stream, hexec, hstream⟩ := exec_writeTokens haccepts tokens
  refine ⟨stream, ?_, hstream⟩
  rw [emit, exec_effect_bind]
  simp only [Scene.perform, hfetch]
  rw [Program.exec_bind, hexec]
  rfl

/-- The counts are printed by one write, and the run is as good as that is. -/
theorem exec_report_of_write {counting : PassId} {stats : TextStats}
    (hstats : scene.results[counting]? = some (.stats stats)) (answer : Except PassError Unit)
    {stream : Stream}
    (hwrite : scene.perform (.write (showStats stats)) = (some answer, { scene with stream })) :
    (report counting).exec scene = (some { succeeded := answer.isOk }, { scene with stream }) := by
  have hfetch : scene.results.fetch counting .stats = .ok stats :=
    Results.fetch_eq_ok_iff.mpr hstats
  rw [report, exec_effect_bind]
  simp only [Scene.perform, hfetch]
  rw [exec_effect_bind, hwrite]
  cases answer with
  | ok written => rfl
  | error error => rfl

theorem exec_report {counting : PassId} {stats : TextStats} (haccepts : scene.stream.Accepts)
    (hstats : scene.results[counting]? = some (.stats stats)) :
    ∃ stream, (report counting).exec scene =
        (some { succeeded := true }, { scene with stream }) ∧
      stream.contents = scene.stream.contents ++ (showStats stats).toUTF8 ∧ stream.Accepts := by
  obtain ⟨stream, hwrite, hstream⟩ := haccepts.writeText (showStats stats)
  refine ⟨stream, exec_report_of_write hstats (.ok ()) ?_, hstream⟩
  rw [Scene.perform, hwrite]

/-! ## Products -/

/-- The counts of a text: the line feeds and a last line without one, the pieces between
blanks, the characters, and the different pieces. -/
def counts (text : String) : TextStats where
  lines := text.toList.count '\n' + if text.toList.getLast?.any (· != '\n') then 1 else 0
  words := (Text.tokens text).length
  chars := text.toList.length
  distinct := (Text.tokens text).toFinset.card

/-- The lines that report on a text. -/
def summaryLines (text : String) : String :=
  "lines: " ++ toString (counts text).lines ++ "\nwords: " ++ toString (counts text).words ++
    "\nchars: " ++ toString (counts text).chars ++
    "\ndistinct: " ++ toString (counts text).distinct ++ "\n"

/-- The words of a text, one to a line. -/
def tokenLines (text : String) : String := String.join ((Text.tokens text).map (· ++ "\n"))

theorem stats_words (text : String) : stats text (Text.words text) = counts text := by
  rw [stats, counts, Text.lineCount_eq, Text.distinctCount_eq, Text.words_eq,
    String.length_toList]

theorem showStats_counts (text : String) : showStats (counts text) = summaryLines text := rfl

/-- What a pass stores under its identity. -/
def Ids.product (ids : Ids) (text : String) (id : PassId) : Option Value :=
  if id = ids.tokenize then some (.texts (Text.tokens text))
  else if id = ids.stats then some (.stats (counts text))
  else none

/-- What a pass prints. -/
def Ids.printed (ids : Ids) (text : String) (id : PassId) : String :=
  if id = ids.report then summaryLines text
  else if id = ids.emit then tokenLines text
  else ""

/-- The pass succeeds, adds its product to the results, and prints its lines. -/
structure Ids.Works (ids : Ids) (text : String) (id : PassId) (scene : Scene) (report : Report)
    (after : Scene) : Prop where
  succeeded : report.succeeded = true
  verified : report.verified = true
  catalog_eq : after.world.catalog = scene.world.catalog
  results : ∀ key : PassId, after.results[key]? =
    (if key = id then ids.product text id else none).or scene.results[key]?
  contents : after.stream.contents = scene.stream.contents ++ (ids.printed text id).toUTF8
  accepts : after.stream.Accepts

/-- The results hold what the pass works with. -/
structure Ids.Stocked (ids : Ids) (text : String) (id : PassId) (results : Results) : Prop where
  read : results[ids.read]? = some (.text text)
  tokenize : id = ids.stats ∨ id = ids.emit →
    results[ids.tokenize]? = some (.texts (Text.tokens text))
  stats : id = ids.summary ∨ id = ids.report →
    results[ids.stats]? = some (.stats (counts text))

variable {ids : Ids} {text : String}

theorem getElem?_of_product {id : PassId} {value : Value} (results : Results)
    (hproduct : ids.product text id = some value) (key : PassId) :
    (results.insert id value)[key]? =
      (if key = id then ids.product text id else none).or results[key]? := by
  rw [Std.ExtTreeMap.getElem?_insert, hproduct]
  by_cases hkey : id = key
  · simp [hkey]
  · simp [hkey, Ne.symm hkey]

theorem getElem?_of_no_product {id : PassId} (results : Results)
    (hproduct : ids.product text id = none) (key : PassId) :
    results[key]? = (if key = id then ids.product text id else none).or results[key]? := by
  rw [hproduct, ite_self, Option.none_or]

/-- A pass that prints nothing does its work by storing its product, if it has one. -/
theorem Ids.Works.silent {id : PassId} {after : Scene} (haccepts : scene.stream.Accepts)
    (hprinted : ids.printed text id = "") (hstream : after.stream = scene.stream)
    (hcatalog : after.world.catalog = scene.world.catalog)
    (hresults : ∀ key : PassId, after.results[key]? =
      (if key = id then ids.product text id else none).or scene.results[key]?) :
    ids.Works text id scene { succeeded := true } after where
  succeeded := rfl
  verified := rfl
  catalog_eq := hcatalog
  results := hresults
  contents := by simp [hstream, hprinted]
  accepts := hstream ▸ haccepts

theorem Ids.Entered.works {catalog : Catalog} (hentered : ids.Entered catalog) {id : PassId}
    {pass : Descriptor} (hid : id ∈ ids.all) (hfind : catalog.find? id = some pass)
    (hself : scene.self = id) (hstocked : ids.Stocked text id scene.results)
    (haccepts : scene.stream.Accepts) :
    ∃ report after, pass.behaviour.run.exec scene = (some report, after) ∧
      ids.Works text id scene report after := by
  have hdistinct := Ids.distinct hentered.nodup
  rcases mem_all.mp hid with rfl | rfl | rfl | rfl | rfl | rfl
  · have hvalue : scene.results.contains scene.self = true := by
      rw [hself, Std.ExtTreeMap.contains_eq_isSome_getElem?, hstocked.read]
      rfl
    obtain ⟨trace, hexec⟩ := exec_read hvalue
    rw [hentered.read.run_eq hfind]
    refine ⟨_, _, hexec, .silent haccepts ?_ rfl rfl (getElem?_of_no_product _ ?_)⟩
    · simp [Ids.printed, hdistinct]
    · grind [Ids.product]
  · obtain ⟨trace, hexec⟩ := exec_tokenize hstocked.read
    rw [hself, Text.words_eq] at hexec
    rw [hentered.tokenize.run_eq hfind]
    refine ⟨_, _, hexec, .silent haccepts ?_ rfl rfl (getElem?_of_product _ ?_)⟩
    · simp [Ids.printed, hdistinct]
    · grind [Ids.product]
  · have hexec := exec_summary (hstocked.stats (Or.inl rfl))
    rw [hentered.summary.run_eq hfind]
    refine ⟨_, _, hexec, .silent haccepts ?_ rfl rfl (getElem?_of_no_product _ ?_)⟩
    · simp [Ids.printed, hdistinct]
    · grind [Ids.product]
  · have hexec := exec_count hstocked.read (hstocked.tokenize (Or.inl rfl))
    rw [hself, ← Text.words_eq, stats_words] at hexec
    rw [hentered.stats.run_eq hfind]
    refine ⟨_, _, hexec, .silent haccepts ?_ rfl rfl (getElem?_of_product _ ?_)⟩
    · simp [Ids.printed, hdistinct]
    · grind [Ids.product]
  · -- The last two passes print, and store nothing.
    obtain ⟨stream, hexec, hcontents, hstream⟩ :=
      exec_emit haccepts (hstocked.tokenize (Or.inr rfl))
    rw [hentered.emit.run_eq hfind]
    refine ⟨_, _, hexec, ⟨rfl, rfl, rfl, getElem?_of_no_product _ ?_, ?_, hstream⟩⟩
    · grind [Ids.product]
    · simp [hcontents, Ids.printed, tokenLines, hdistinct]
  · obtain ⟨stream, hexec, hcontents, hstream⟩ :=
      exec_report haccepts (hstocked.stats (Or.inr rfl))
    rw [hentered.report.run_eq hfind]
    refine ⟨_, _, hexec, ⟨rfl, rfl, rfl, getElem?_of_no_product _ ?_, ?_, hstream⟩⟩
    · grind [Ids.product]
    · simp [hcontents, Ids.printed, showStats_counts]

end PassPipeline.TextPipeline
