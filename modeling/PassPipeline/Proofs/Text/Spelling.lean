import Mathlib.Data.List.Basic
import PassPipeline.Text.Words

/-!
# What words are

A text spells a list of words if it consists of them, in order, and of blanks, and each word ends
where the text ends or before a blank.  A text can be cut into words in one way only, and that is
what `words` does (`words_eq_iff`); so whatever is known of texts that spell something is known of
words.  Nothing but blanks is lost (`Spells.flatten`), no word can be made longer
(`Spells.split`), and with one more character there would be at least two for each word
(`Spells.two_mul_length_le`).
-/

namespace PassPipeline.Text

/-- Is not empty and contains no blank. -/
def IsWord (word : List Char) : Prop := word ≠ [] ∧ ∀ c ∈ word, isBlank c = false

theorem IsWord.begins {word : List Char} (hword : IsWord word) (rest : List Char) :
    ¬ ∀ c ∈ (word ++ rest).head?, isBlank c = true := by
  intro hblank
  obtain ⟨c, letters, rfl⟩ := List.exists_cons_of_ne_nil hword.1
  have hletter : isBlank c = false := hword.2 c List.mem_cons_self
  simp [hblank c rfl] at hletter

/-- The characters consist of the words, each of which ends at the end or before a blank, and of
blanks beside. -/
inductive Spells : List Char → List (List Char) → Prop
  | nil : Spells [] []
  | blank {c : Char} {rest : List Char} {words : List (List Char)} (hblank : isBlank c = true)
      (hrest : Spells rest words) : Spells (c :: rest) words
  | word {word rest : List Char} {words : List (List Char)} (hword : IsWord word)
      (hends : ∀ c ∈ rest.head?, isBlank c = true) (hrest : Spells rest words) :
      Spells (word ++ rest) (word :: words)

/-! ## The words of a text -/

theorem wordsFrom_append {word : List Char} (hword : ∀ c ∈ word, isBlank c = false)
    (collected rest : List Char) :
    wordsFrom collected (word ++ rest) = wordsFrom (word.reverse ++ collected) rest := by
  induction word generalizing collected with
  | nil => rfl
  | cons c word ih =>
    obtain ⟨hc, hword⟩ := List.forall_mem_cons.mp hword
    rw [List.cons_append, wordsFrom, if_neg (by simp [hc]), ih hword]
    simp

/-- A word that has begun ends at the end or before a blank. -/
theorem wordsFrom_of_ends {rest : List Char} (hends : ∀ c ∈ rest.head?, isBlank c = true)
    (collected : List Char) :
    wordsFrom collected rest = closeWord collected (wordsFrom [] rest) := by
  cases rest with
  | nil => rfl
  | cons c rest =>
    have hblank : isBlank c = true := hends c rfl
    rw [wordsFrom, wordsFrom, if_pos hblank, if_pos hblank]
    rfl

theorem Spells.wordsFrom_eq {text : List Char} {words : List (List Char)}
    (hspells : Spells text words) : wordsFrom [] text = words := by
  induction hspells with
  | nil => rfl
  | blank hblank _ ih =>
    rw [wordsFrom, if_pos hblank, ih]
    rfl
  | @word word rest words hword hends _ ih =>
    rw [wordsFrom_append hword.2, List.append_nil, wordsFrom_of_ends hends, ih, closeWord,
      if_neg (by simpa using hword.1), List.reverse_reverse]

/-- Characters that are collected begin the text that is still to be cut. -/
theorem Spells.closeWord {collected rest : List Char} {words : List (List Char)}
    (hcollected : ∀ c ∈ collected, isBlank c = false) (hrest : Spells rest words)
    (hends : ∀ c ∈ rest.head?, isBlank c = true) :
    Spells (collected.reverse ++ rest) (closeWord collected words) := by
  by_cases hnone : collected = []
  · subst hnone
    exact hrest
  · rw [Text.closeWord, if_neg (by simpa using hnone)]
    exact .word ⟨by simpa using hnone, by simpa using hcollected⟩ hends hrest

theorem spells_wordsFrom {collected : List Char} (hcollected : ∀ c ∈ collected, isBlank c = false)
    (rest : List Char) : Spells (collected.reverse ++ rest) (wordsFrom collected rest) := by
  induction rest generalizing collected with
  | nil => exact .closeWord hcollected .nil (by simp)
  | cons c rest ih =>
    rw [wordsFrom]
    split
    · next hblank =>
      have hrest : Spells rest (wordsFrom [] rest) := @ih [] (by simp)
      exact .closeWord hcollected (.blank hblank hrest) (by simpa using hblank)
    · next hletter =>
      have hbegun : ∀ d ∈ c :: collected, isBlank d = false :=
        List.forall_mem_cons.mpr ⟨by simpa using hletter, hcollected⟩
      simpa using ih hbegun

/-- A text spells its words, and nothing else. -/
theorem wordsFrom_eq_iff {text : List Char} {words : List (List Char)} :
    wordsFrom [] text = words ↔ Spells text words :=
  ⟨fun hwords => hwords ▸ @spells_wordsFrom [] (by simp) text, Spells.wordsFrom_eq⟩

theorem words_eq_iff {text : String} {tokens : List String} :
    words text = tokens ↔ Spells text.toList (tokens.map String.toList) := by
  rw [← wordsFrom_eq_iff, words]
  constructor
  · rintro rfl
    simp [Function.comp_def]
  · intro hwords
    simp [hwords, Function.comp_def]

/-! ## What spelling tells -/

theorem Spells.isWord {text : List Char} {words : List (List Char)}
    (hspells : Spells text words) : ∀ word ∈ words, IsWord word := by
  induction hspells with
  | nil => simp
  | blank _ _ ih => exact ih
  | word hword _ _ ih => exact List.forall_mem_cons.mpr ⟨hword, ih⟩

/-- The words are what the blanks leave of a text. -/
theorem Spells.flatten {text : List Char} {words : List (List Char)}
    (hspells : Spells text words) : words.flatten = text.filter fun c => !isBlank c := by
  induction hspells with
  | nil => rfl
  | blank hblank _ ih => simpa [hblank] using ih
  | @word word rest _ hword _ _ ih =>
    have hkept : (word.filter fun c => !isBlank c) = word :=
      List.filter_eq_self.mpr fun c hc => by simp [hword.2 c hc]
    rw [List.flatten_cons, List.filter_append, hkept, ih]

/-- A word reaches as far as it can, and the words before and behind it are those of the text
before and behind it. -/
theorem Spells.split {text word : List Char} {before after : List (List Char)}
    (hspells : Spells text (before ++ word :: after)) :
    ∃ front rest, text = front ++ word ++ rest ∧ Spells front before ∧ Spells rest after ∧
      (∀ c ∈ front.getLast?, isBlank c = true) ∧ ∀ c ∈ rest.head?, isBlank c = true := by
  generalize hwords : before ++ word :: after = words at hspells
  induction hspells generalizing before with
  | nil => simp at hwords
  | @blank c rest words hblank _ ih =>
    obtain ⟨front, rest, rfl, hbefore, hafter, hfront, hrest⟩ := ih hwords
    refine ⟨c :: front, rest, by simp, .blank hblank hbefore, hafter, ?_, hrest⟩
    rw [List.getLast?_cons]
    cases hlast : front.getLast? with
    | none => simpa [hlast] using hblank
    | some last => simpa [hlast] using hfront
  | @word first rest words hword hends hrest ih =>
    cases before with
    | nil =>
      obtain ⟨rfl, rfl⟩ := List.cons.inj hwords
      exact ⟨[], rest, by simp, .nil, hrest, by simp, hends⟩
    | cons second before =>
      obtain ⟨rfl, rfl⟩ := List.cons.inj hwords
      have hnext : IsWord word := hrest.isWord word (by simp)
      obtain ⟨front, rest, rfl, hbefore, hafter, hfront, hbehind⟩ := ih rfl
      -- Without a blank between them, the two words would be one.
      have hbetween : front ≠ [] := by
        rintro rfl
        exact hnext.begins rest hends
      obtain ⟨c, front, rfl⟩ := List.exists_cons_of_ne_nil hbetween
      refine ⟨second ++ c :: front, rest, by simp, .word hword hends hbefore, hafter, ?_, hbehind⟩
      rw [List.getLast?_append_cons]
      exact hfront

/-- Every word takes a character, and another one behind it unless it is the last.  That one is
missing only if the text does not begin with a blank. -/
theorem Spells.two_mul_length_le {text : List Char} {words : List (List Char)}
    (hspells : Spells text words) :
    2 * words.length ≤ text.length + 1 ∧
      ((∀ c ∈ text.head?, isBlank c = true) → 2 * words.length ≤ text.length) := by
  induction hspells with
  | nil => simp
  | blank _ _ ih =>
    obtain ⟨hlength, -⟩ := ih
    rw [List.length_cons]
    exact ⟨by omega, fun _ => hlength⟩
  | @word word rest words hword hends _ ih =>
    have hletter : 0 < word.length := List.length_pos_iff.mpr hword.1
    have hrest : 2 * words.length ≤ rest.length := ih.2 hends
    rw [List.length_cons, List.length_append]
    exact ⟨by omega, fun hblank => absurd hblank (hword.begins rest)⟩

/-- The tokens are all that is not blank in the text, cut wherever there is a blank and nowhere
else. -/
structure Cuts (text : String) (tokens : List String) : Prop where
  /-- No token is empty or contains a blank. -/
  isWord : ∀ token ∈ tokens, IsWord token.toList
  /-- Only blanks are lost. -/
  join : (String.join tokens).toList = text.toList.filter fun c => !isBlank c
  /-- A token stands behind the tokens before it, and on neither side something other than a
  blank could be added to it. -/
  maximal : ∀ {before after token}, tokens = before ++ token :: after →
    ∃ front rest, text = front ++ token ++ rest ∧ words front = before ∧ words rest = after ∧
      (∀ c ∈ front.toList.getLast?, isBlank c = true) ∧
      ∀ c ∈ rest.toList.head?, isBlank c = true
  /-- Between a token and the next there are blanks, at least one. -/
  separate : ∀ {before after first second}, tokens = before ++ first :: second :: after →
    ∃ front gap rest, text = front ++ first ++ gap ++ second ++ rest ∧ words front = before ∧
      words rest = after ∧ gap ≠ "" ∧ ∀ c ∈ gap.toList, isBlank c = true

theorem isWord_of_mem_words {text token : String} (hmem : token ∈ words text) :
    IsWord token.toList :=
  (words_eq_iff.mp rfl).isWord _ (List.mem_map_of_mem hmem)

theorem join_words (text : String) :
    (String.join (words text)).toList = text.toList.filter fun c => !isBlank c := by
  rw [← (words_eq_iff.mp rfl : Spells text.toList _).flatten]
  simp [List.flatMap_def]

theorem words_split {text token : String} {before after : List String}
    (hwords : words text = before ++ token :: after) :
    ∃ front rest, text = front ++ token ++ rest ∧ words front = before ∧ words rest = after ∧
      (∀ c ∈ front.toList.getLast?, isBlank c = true) ∧
      ∀ c ∈ rest.toList.head?, isBlank c = true := by
  have hspells := words_eq_iff.mp hwords
  rw [List.map_append, List.map_cons] at hspells
  obtain ⟨front, rest, htext, hbefore, hafter, hfront, hrest⟩ := hspells.split
  refine ⟨.ofList front, .ofList rest, ?_, ?_, ?_, by simpa using hfront, by simpa using hrest⟩
  · rw [← String.toList_inj]
    simpa using htext
  · simpa [words_eq_iff] using hbefore
  · simpa [words_eq_iff] using hafter

theorem words_gap {text first second : String} {before after : List String}
    (hwords : words text = before ++ first :: second :: after) :
    ∃ front gap rest, text = front ++ first ++ gap ++ second ++ rest ∧ words front = before ∧
      words rest = after ∧ gap ≠ "" ∧ ∀ c ∈ gap.toList, isBlank c = true := by
  obtain ⟨front, behind, rfl, hbefore, hbehind, -, hends⟩ := words_split hwords
  obtain ⟨gap, rest, rfl, hgap, hafter, -, -⟩ :=
    words_split (hbehind.trans (List.nil_append _).symm)
  have hblank : ∀ c ∈ gap.toList, isBlank c = true := by
    have hnone := join_words gap
    rw [hgap] at hnone
    simpa using List.filter_eq_nil_iff.mp hnone.symm
  have hsecond : IsWord second.toList := isWord_of_mem_words (by rw [hbehind]; simp)
  refine ⟨front, gap, rest, by simp [String.append_assoc], hbefore, hafter, ?_, hblank⟩
  -- Without a blank before it, the second word would begin where the first ends.
  rintro rfl
  exact hsecond.begins rest.toList (by simpa using hends)

theorem two_mul_length_words_le (text : String) :
    2 * (words text).length ≤ text.toList.length + 1 := by
  have hlength := (words_eq_iff.mp (rfl : words text = words text)).two_mul_length_le.1
  rwa [List.length_map] at hlength

theorem cuts_words (text : String) : Cuts text (words text) where
  isWord _ hmem := isWord_of_mem_words hmem
  join := join_words text
  maximal := words_split
  separate := words_gap

end PassPipeline.Text
