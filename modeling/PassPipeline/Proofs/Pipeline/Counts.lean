import PassPipeline.Proofs.Pipeline.Passes
import PassPipeline.Proofs.Text.Spelling

/-!
# The counts of a text

The splitting pass and the counting pass together store the counts of a text (`tallies_counts`).
The four counts come about in different ways, but they keep to each other: two texts with a line
feed between them have the words of both, and the characters and lines of both as well if the
line feed is counted with the first; and no text has fewer characters than its words or its lines
require (`counts_laws`).
-/

namespace PassPipeline.TextPipeline

/-- Wherever the splitting pass finds the text, it leaves the counting pass with what that needs to
store the counts. -/
def Tallies (text : String) (stats : TextStats) : Prop :=
  ∀ (read splitting counting : PassId) (scene : Scene), read ≠ splitting →
    scene.results[read]? = some (.text text) →
    ∃ split counted,
      (tokenize read).exec { scene with self := splitting } =
        (some { succeeded := true }, split) ∧
      (count read splitting).exec { split with self := counting } =
        (some { succeeded := true }, counted) ∧
      counted.results[counting]? = some (.stats stats)

theorem tallies_counts (text : String) : Tallies text (counts text) := by
  intro read splitting counting scene hne hread
  obtain ⟨split, hsplit, hresults⟩ : ∃ split,
      (tokenize read).exec { scene with self := splitting } =
        (some { succeeded := true }, split) ∧
      split.results = scene.results.insert splitting (.texts (Text.words text)) := by
    obtain ⟨trace, hsplit⟩ := @exec_tokenize { scene with self := splitting } read text hread
    exact ⟨_, hsplit, rfl⟩
  have hkept : split.results[read]? = some (.text text) := by
    rw [hresults, Std.ExtTreeMap.getElem?_insert]
    simpa [hne.symm] using hread
  have htokens : split.results[splitting]? = some (.texts (Text.words text)) := by
    rw [hresults, Std.ExtTreeMap.getElem?_insert_self]
  have hcount := @exec_count { split with self := counting } _ _ _ _ hkept htokens
  rw [stats_words] at hcount
  exact ⟨split, _, hsplit, hcount, Std.ExtTreeMap.getElem?_insert_self⟩

/-! ## Texts put together -/

variable (first second text : String)

theorem lines_counts : (counts text).lines = Text.lineCount text := (Text.lineCount_eq text).symm

theorem words_counts_joined :
    (counts (first ++ "\n" ++ second)).words = (counts first).words + (counts second).words := by
  rw [counts, Text.tokens_joined, List.length_append]
  rfl

theorem chars_counts_joined :
    (counts (first ++ "\n" ++ second)).chars = (counts first).chars + (counts second).chars + 1 := by
  simp [counts]
  omega

theorem lines_counts_joined :
    (counts (first ++ "\n" ++ second)).lines =
      (counts (first ++ "\n")).lines + (counts second).lines := by
  simpa [lines_counts] using Text.lineCount_joined first second

/-- Words of one part may be words of the other. -/
theorem distinct_counts_joined :
    max (counts first).distinct (counts second).distinct ≤
        (counts (first ++ "\n" ++ second)).distinct ∧
      (counts (first ++ "\n" ++ second)).distinct ≤
        (counts first).distinct + (counts second).distinct := by
  have hunion : (counts (first ++ "\n" ++ second)).distinct =
      ((Text.tokens first).toFinset ∪ (Text.tokens second).toFinset).card := by
    rw [counts, Text.tokens_joined, List.toFinset_append]
  rw [hunion]
  have hfirst : (Text.tokens first).toFinset ⊆
      (Text.tokens first).toFinset ∪ (Text.tokens second).toFinset := Finset.subset_union_left
  have hsecond : (Text.tokens second).toFinset ⊆
      (Text.tokens first).toFinset ∪ (Text.tokens second).toFinset := Finset.subset_union_right
  exact ⟨max_le (Finset.card_le_card hfirst) (Finset.card_le_card hsecond),
    Finset.card_union_le _ _⟩

/-! ## Bounds -/

theorem distinct_counts_le : (counts text).distinct ≤ (counts text).words :=
  List.toFinset_card_le _

theorem distinct_counts_eq_zero_iff :
    (counts text).distinct = 0 ↔ (counts text).words = 0 := by
  simp [counts]

theorem two_mul_words_counts_le : 2 * (counts text).words ≤ (counts text).chars + 1 := by
  have hlength := Text.two_mul_length_words_le text
  rwa [Text.words_eq] at hlength

/-- What the splitting pass and the counting pass store for a text put together at a line feed
comes of what they store for its parts, and the counts that they store for a text keep to each
other. -/
theorem counts_laws :
    (∀ text, Tallies text (counts text)) ∧
    (∀ first second : String,
      (counts (first ++ "\n" ++ second)).words = (counts first).words + (counts second).words ∧
      (counts (first ++ "\n" ++ second)).chars =
        (counts first).chars + (counts second).chars + 1 ∧
      (counts (first ++ "\n" ++ second)).lines =
        (counts (first ++ "\n")).lines + (counts second).lines ∧
      (counts (first ++ "\n")).lines = 1 + first.toList.count '\n' ∧
      max (counts first).distinct (counts second).distinct ≤
        (counts (first ++ "\n" ++ second)).distinct ∧
      (counts (first ++ "\n" ++ second)).distinct ≤
        (counts first).distinct + (counts second).distinct) ∧
    ∀ text : String,
      (counts text).distinct ≤ (counts text).words ∧
      ((counts text).distinct = 0 ↔ (counts text).words = 0) ∧
      2 * (counts text).words ≤ (counts text).chars + 1 ∧
      (counts text).lines ≤ (counts text).chars ∧
      ((counts text).lines = 0 ↔ text = "") := by
  refine ⟨tallies_counts, fun first second => ⟨words_counts_joined first second,
    chars_counts_joined first second, lines_counts_joined first second, ?_,
    distinct_counts_joined first second⟩, fun text => ⟨distinct_counts_le text,
    distinct_counts_eq_zero_iff text, two_mul_words_counts_le text, ?_, ?_⟩⟩
  · rw [lines_counts, Text.lineCount_ended]
  · rw [lines_counts]
    exact Text.lineCount_le text
  · rw [lines_counts, Text.lineCount_eq_zero_iff]

end PassPipeline.TextPipeline
