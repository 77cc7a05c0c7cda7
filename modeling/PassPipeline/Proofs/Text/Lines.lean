import PassPipeline.Proofs.Text.Spelling

/-!
# Lines

A line is what stands before a line feed, without a carriage return at its end, or behind the
last line feed if that is not nothing.

`unlines` gives each of a list of texts a line of its own.  Texts without line feeds can be told
from the result (`unlines_inj`).  If they are words, they are the words of the result and its
lines as well (`words_unlines`, `lines_unlines`); for the lines it matters that a carriage return
is blank.
-/

namespace PassPipeline.Text

/-! ## Lines of a text -/

/-- A line as it was collected, newest character first, before a line feed.  A carriage return
belongs to the line feed. -/
def closeLine : List Char → List Char
  | '\r' :: collected => collected.reverse
  | collected => collected.reverse

/-- The lines of a text whose first line has begun with `collected`, newest character first. -/
def linesFrom (collected : List Char) : List Char → List (List Char)
  | [] => closeWord collected []
  | c :: rest =>
    if c = '\n' then closeLine collected :: linesFrom [] rest else linesFrom (c :: collected) rest

/-- The lines of a text, in order. -/
def lines (text : String) : List String := (linesFrom [] text.toList).map String.ofList

theorem linesFrom_append {line : List Char} (hline : '\n' ∉ line) (collected rest : List Char) :
    linesFrom collected (line ++ rest) = linesFrom (line.reverse ++ collected) rest := by
  induction line generalizing collected with
  | nil => rfl
  | cons c line ih =>
    obtain ⟨hc, hline⟩ : c ≠ '\n' ∧ '\n' ∉ line := by simpa [eq_comm] using hline
    rw [List.cons_append, linesFrom, if_neg hc, ih hline]
    simp

theorem closeLine_reverse {line : List Char} (hline : '\r' ∉ line) :
    closeLine line.reverse = line := by
  unfold closeLine
  split
  · next collected hcollected =>
    have hreturn : '\r' ∈ line.reverse := by simp [hcollected]
    exact absurd (List.mem_reverse.mp hreturn) hline
  · exact line.reverse_reverse

/-! ## A word to a line -/

/-- The items, each on a line of its own. -/
def unlines (items : List String) : String := String.join (items.map (· ++ "\n"))

theorem toList_unlines (items : List String) :
    (unlines items).toList = (items.map String.toList).flatMap (· ++ ['\n']) := by
  induction items with
  | nil => rfl
  | cons item items ih =>
    rw [unlines, List.map_cons, String.join_cons, String.toList_append, String.toList_append,
      ← unlines, ih]
    rfl

theorem unlines_cons (item : String) (items : List String) :
    unlines (item :: items) = item ++ "\n" ++ unlines items := by
  rw [unlines, List.map_cons, String.join_cons]
  rfl

theorem unlines_append (first second : List String) :
    unlines (first ++ second) = unlines first ++ unlines second := by
  rw [unlines, List.map_append, String.join_append]
  rfl

theorem unlines_flatMap {α : Type} (list : List α) (items : α → List String) :
    unlines (list.flatMap items) = String.join (list.map fun item => unlines (items item)) := by
  induction list with
  | nil => rfl
  | cons item list ih => rw [List.flatMap_cons, unlines_append, ih, List.map_cons, String.join_cons]

/-- The first place of a separator is the same in equal lists. -/
theorem append_cons_inj {α : Type} {separator : α} {first second rest others : List α}
    (hfirst : separator ∉ first) (hsecond : separator ∉ second)
    (heq : first ++ separator :: rest = second ++ separator :: others) :
    first = second ∧ rest = others := by
  induction first generalizing second with
  | nil =>
    cases second with
    | nil => exact ⟨rfl, (List.cons.inj heq).2⟩
    | cons item second =>
      obtain ⟨rfl, -⟩ := List.cons.inj heq
      exact absurd List.mem_cons_self hsecond
  | cons item first ih =>
    cases second with
    | nil =>
      obtain ⟨rfl, -⟩ := List.cons.inj heq
      exact absurd List.mem_cons_self hfirst
    | cons other second =>
      obtain ⟨rfl, htail⟩ := List.cons.inj heq
      obtain ⟨rfl, hrest⟩ := ih (List.not_mem_of_not_mem_cons hfirst)
        (List.not_mem_of_not_mem_cons hsecond) htail
      exact ⟨rfl, hrest⟩

/-- Lines can be told apart if there is no line feed in them. -/
theorem unlines_inj {items others : List String} (hitems : ∀ item ∈ items, '\n' ∉ item.toList)
    (hothers : ∀ item ∈ others, '\n' ∉ item.toList) (heq : unlines items = unlines others) :
    items = others := by
  rw [← String.toList_inj] at heq
  induction items generalizing others with
  | nil =>
    cases others with
    | nil => rfl
    | cons other others => simp [toList_unlines] at heq
  | cons item items ih =>
    cases others with
    | nil => simp [toList_unlines] at heq
    | cons other others =>
      obtain ⟨hitem, hitems⟩ := List.forall_mem_cons.mp hitems
      obtain ⟨hother, hothers⟩ := List.forall_mem_cons.mp hothers
      rw [unlines_cons, unlines_cons] at heq
      obtain ⟨hsame, hrest⟩ := append_cons_inj hitem hother (by simpa using heq)
      rw [String.toList_inj.mp hsame, ih hitems hothers hrest]

theorem spells_unlines {words : List (List Char)} (hwords : ∀ word ∈ words, IsWord word) :
    Spells (words.flatMap (· ++ ['\n'])) words := by
  induction words with
  | nil => exact .nil
  | cons word words ih =>
    obtain ⟨hword, hwords⟩ := List.forall_mem_cons.mp hwords
    have hrest := Spells.blank (c := '\n') (by decide) (ih hwords)
    simpa using Spells.word hword (by simp; decide) hrest

theorem linesFrom_unlines {words : List (List Char)} (hwords : ∀ word ∈ words, IsWord word) :
    linesFrom [] (words.flatMap (· ++ ['\n'])) = words := by
  induction words with
  | nil => rfl
  | cons word words ih =>
    obtain ⟨hword, hwords⟩ := List.forall_mem_cons.mp hwords
    have habsent : ∀ c, isBlank c = true → c ∉ word := fun c hblank hmem => by
      simp [hword.2 c hmem] at hblank
    rw [List.flatMap_cons, List.append_assoc, linesFrom_append (habsent '\n' (by decide)),
      List.append_nil, List.singleton_append, linesFrom, if_pos rfl, ih hwords,
      closeLine_reverse (habsent '\r' (by decide))]

variable {items : List String}

theorem words_unlines (hitems : ∀ item ∈ items, IsWord item.toList) :
    words (unlines items) = items := by
  rw [words_eq_iff, toList_unlines]
  exact spells_unlines (by simpa using hitems)

theorem lines_unlines (hitems : ∀ item ∈ items, IsWord item.toList) :
    lines (unlines items) = items := by
  rw [lines, toList_unlines, linesFrom_unlines (by simpa using hitems)]
  simp [Function.comp_def]

end PassPipeline.Text
