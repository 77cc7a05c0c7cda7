import Mathlib.Data.Finset.Card
import Mathlib.Data.List.Count
import PassPipeline.Text.Words

/-!
# What is counted in a text

Words are scanned for character by character, lines are counted with a flag that tells
whether one has begun, and different words are counted by sorting them into a set.  What comes
of it can be said without the scanning: the words are the pieces between blanks that are not
empty (`words_eq`), every line feed ends a line and what is left over is one more
(`lineCount_eq`), and a set does not count a word twice (`distinctCount_eq`).

A text that is put together at a line feed has the words of its parts (`tokens_joined`) and the
lines of its parts (`lineCount_joined`).
-/

namespace PassPipeline.Text

/-- The pieces between blanks that are not empty. -/
def tokens (text : String) : List String :=
  ((text.toList.splitOnP isBlank).filter fun piece => !piece.isEmpty).map String.ofList

/-- The characters collected so far belong to the first piece of the rest. -/
theorem wordsFrom_eq (collected rest : List Char) :
    wordsFrom collected rest =
      ((rest.splitOnP isBlank).modifyHead (collected.reverse ++ ·)).filter
        fun piece => !piece.isEmpty := by
  induction rest generalizing collected with
  | nil => cases collected <;> simp [wordsFrom, closeWord, List.splitOnP_nil]
  | cons c rest ih =>
      rw [wordsFrom, List.splitOnP_cons_eq_if_modifyHead]
      by_cases hblank : isBlank c = true
      · have hfirst : wordsFrom [] rest =
            (rest.splitOnP isBlank).filter fun piece => !piece.isEmpty := by
          rw [ih []]
          cases rest.splitOnP isBlank <;> simp
        rw [if_pos hblank, if_pos hblank, hfirst]
        cases collected <;> simp [closeWord]
      · rw [if_neg hblank, if_neg hblank, ih (c :: collected)]
        cases rest.splitOnP isBlank <;> simp

theorem words_eq (text : String) : words text = tokens text := by
  rw [words, wordsFrom_eq, tokens]
  cases text.toList.splitOnP isBlank <;> simp

/-- A line has begun after the last line feed if something follows it. -/
theorem countLines_eq (begun : Bool) (rest : List Char) :
    countLines begun rest =
      rest.count '\n' + if (rest.getLast?.map (· != '\n')).getD begun then 1 else 0 := by
  induction rest generalizing begun with
  | nil => cases begun <;> rfl
  | cons c rest ih =>
      rw [countLines, List.getLast?_cons]
      by_cases hfeed : c = '\n'
      · rw [if_pos hfeed, ih, hfeed, List.count_cons_self]
        cases rest.getLast? with
        | none => simp
        | some last =>
            simp only [Option.map_some, Option.getD_some]
            omega
      · rw [if_neg hfeed, ih, List.count_cons_of_ne hfeed]
        cases rest.getLast? <;> simp [hfeed]

theorem lineCount_eq (text : String) :
    lineCount text =
      text.toList.count '\n' + if text.toList.getLast?.any (· != '\n') then 1 else 0 := by
  rw [lineCount, countLines_eq]
  cases text.toList.getLast? <;> simp

theorem distinctCount_eq (items : List String) : distinctCount items = items.toFinset.card := by
  have hnodup : (Std.ExtTreeSet.ofList items compare).toList.Nodup := by
    refine Std.ExtTreeSet.ordered_toList.imp fun hless heq => ?_
    simp [heq] at hless
  have hmembers : (Std.ExtTreeSet.ofList items compare).toList.toFinset = items.toFinset := by
    ext item
    rw [List.mem_toFinset, List.mem_toFinset, Std.ExtTreeSet.mem_toList,
      Std.ExtTreeSet.mem_ofList]
    simp
  rw [distinctCount, ← Std.ExtTreeSet.length_toList, ← hmembers,
    List.toFinset_card_of_nodup hnodup]

/-! ## Texts put together -/

theorem tokens_joined (first second : String) :
    tokens (first ++ "\n" ++ second) = tokens first ++ tokens second := by
  have hjoined : (first ++ "\n" ++ second).toList = first.toList ++ '\n' :: second.toList := by
    simp
  rw [tokens, hjoined, List.splitOnP_append_cons _ _ (by decide), List.filter_append,
    List.map_append]
  rfl

theorem countLines_append (begun : Bool) (first rest : List Char) :
    countLines begun (first ++ '\n' :: rest) =
      countLines begun (first ++ ['\n']) + countLines false rest := by
  induction first generalizing begun with
  | nil => simp [countLines, Nat.add_comm]
  | cons c first ih =>
      rw [List.cons_append, List.cons_append, countLines, countLines, ih, ih]
      split
      · omega
      · rfl

theorem lineCount_joined (first second : String) :
    lineCount (first ++ "\n" ++ second) = lineCount (first ++ "\n") + lineCount second := by
  simpa [lineCount] using countLines_append false first.toList second.toList

theorem lineCount_ended (text : String) :
    lineCount (text ++ "\n") = 1 + text.toList.count '\n' := by
  simp [lineCount_eq, Nat.add_comm]

/-! ## Bounds -/

/-- A line has a character of its own, be it the line feed. -/
theorem countLines_le (begun : Bool) (rest : List Char) :
    countLines begun rest ≤ rest.length + if begun then 1 else 0 := by
  induction rest generalizing begun with
  | nil => cases begun <;> simp [countLines]
  | cons c rest ih =>
      rw [countLines, List.length_cons]
      split
      · have hrest : countLines false rest ≤ rest.length := by simpa using ih false
        omega
      · have hrest : countLines true rest ≤ rest.length + 1 := by simpa using ih true
        omega

theorem lineCount_le (text : String) : lineCount text ≤ text.toList.length := by
  simpa [lineCount] using countLines_le false text.toList

/-- The first character begins a line, or ends one. -/
theorem countLines_cons_ne_zero (begun : Bool) (c : Char) (rest : List Char) :
    countLines begun (c :: rest) ≠ 0 := by
  have hbegun : ∀ rest : List Char, countLines true rest ≠ 0 := by
    intro rest
    induction rest with
    | nil => exact Nat.one_ne_zero
    | cons c rest ih =>
        rw [countLines]
        split
        · exact Nat.succ_ne_zero _
        · exact ih
  rw [countLines]
  split
  · exact Nat.succ_ne_zero _
  · exact hbegun rest

theorem lineCount_eq_zero_iff {text : String} : lineCount text = 0 ↔ text = "" := by
  rw [← String.toList_eq_nil_iff, lineCount]
  cases text.toList with
  | nil => simp [countLines]
  | cons c rest => simp [countLines_cons_ne_zero]

end PassPipeline.Text
