import PassPipeline.CommandLine.Reader
import PassPipeline.Proofs.CommandLine.Conventions
import PassPipeline.Proofs.Text.Bytes

/-!
# The reader goes by the conventions

A value is looked at some words after it was read, so what has been found so far is what has been
looked at and what is pending.  The words of a reading that has no fault can be cut anywhere: what
is behind a cut is read from the progress that was made before it (`read_append`).  Each convention
is then about one or two steps.
-/

namespace PassPipeline.CommandLine

open Text.Utf8 (toList_toUTF8 mem_of_mem_bytes)

/-! ## The bytes of words -/

theorem toList_append (first second : String) :
    (first ++ second).toUTF8.data.toList =
      first.toUTF8.data.toList ++ second.toUTF8.data.toList := by
  simp only [toList_toUTF8, String.toList_append, List.flatMap_append]

theorem toList_longWord (form : String) :
    (longWord form).data.toList = 0x2D :: 0x2D :: form.toUTF8.data.toList :=
  toList_append "--" form

theorem toList_valueWord (form value : String) :
    (valueWord form value).data.toList =
      0x2D :: 0x2D :: (form.toUTF8.data.toList ++ 0x3D :: value.toUTF8.data.toList) := by
  rw [valueWord, toList_append, toList_append, toList_append, List.append_assoc]
  rfl

theorem toList_shortWord (letters : List Char) :
    (shortWord letters).data.toList = 0x2D :: letters.flatMap String.utf8EncodeChar := by
  rw [shortWord, toList_append, toList_toUTF8 (.ofList letters), String.toList_ofList]
  rfl

theorem fromUTF8?_bytes (text : String) :
    String.fromUTF8? ⟨text.toUTF8.data.toList.toArray⟩ = some text :=
  Text.fromUTF8?_eq_some_iff.mpr rfl

/-- The equals sign is one byte in a word. -/
theorem span_form {form : String} (hform : '=' ∉ form.toList) (rest : List UInt8) :
    (form.toUTF8.data.toList ++ 0x3D :: rest).span (· ≠ 0x3D) =
      (form.toUTF8.data.toList, 0x3D :: rest) := by
  refine Text.span_name (fun hmem => hform ?_) rest
  rw [toList_toUTF8] at hmem
  exact @mem_of_mem_bytes '=' (by decide) _ hmem

theorem span_form_whole {form : String} (hform : '=' ∉ form.toList) :
    form.toUTF8.data.toList.span (· ≠ 0x3D) = (form.toUTF8.data.toList, []) := by
  refine Text.span_whole fun hmem => hform ?_
  rw [toList_toUTF8] at hmem
  exact @mem_of_mem_bytes '=' (by decide) _ hmem

theorem exists_of_bind_eq_ok {ε α β : Type} {first : Except ε α} {next : α → Except ε β}
    {result : β} (hbind : first >>= next = .ok result) :
    ∃ value, first = .ok value ∧ next value = .ok result := by
  rcases first with error | value
  · cases hbind
  · exact ⟨value, rfl, hbind⟩

namespace Progress

variable {command : Command} {progress settled next : Progress} {argument : Argument}
  {form value : String} {letters : List Char} {word : OsText}

/-! ## What kind of word it is -/

theorem read_of_dashes (hopened : progress.verbatim = false) {rest : List UInt8}
    (hsome : rest ≠ []) (hword : word.data.toList = 0x2D :: 0x2D :: rest) :
    progress.read command word = progress.dashed command rest := by
  obtain ⟨first, more, rfl⟩ := List.exists_cons_of_ne_nil hsome
  rw [read, hopened, hword]
  rfl

theorem read_longWord (hopened : progress.verbatim = false) (hsome : form ≠ "")
    (hform : '=' ∉ form.toList) :
    progress.read command (longWord form) = progress.long command form none := by
  have hbytes : form.toUTF8.data.toList ≠ [] := fun hnil =>
    hsome (String.toByteArray_inj.mp (ByteArray.ext (Array.toList_inj.mp hnil)))
  rw [read_of_dashes hopened hbytes (toList_longWord form), dashed, span_form_whole hform]
  dsimp only
  rw [fromUTF8?_bytes]

theorem read_valueWord (hopened : progress.verbatim = false) (hform : '=' ∉ form.toList) :
    progress.read command (valueWord form value) =
      progress.long command form (some value.toUTF8) := by
  have hbytes : form.toUTF8.data.toList ++ 0x3D :: value.toUTF8.data.toList ≠ [] := by simp
  rw [read_of_dashes hopened hbytes (toList_valueWord form value), dashed, span_form hform]
  dsimp only
  rw [fromUTF8?_bytes]
  rfl

theorem read_shortWord (hopened : progress.verbatim = false) {letter : Char}
    (hdash : letter ≠ '-') :
    progress.read command (shortWord (letter :: letters)) =
      (letter :: letters).foldlM (short command) progress := by
  obtain ⟨first, rest, hfirst⟩ :=
    List.exists_cons_of_ne_nil (@String.utf8EncodeChar_ne_nil letter)
  -- No byte of another character is that of a dash, so this is not the word of a long form.
  have hplain : first ≠ 0x2D := by
    rintro rfl
    refine hdash (@Text.Utf8.eq_of_mem_utf8EncodeChar letter '-' (by decide) ?_)
    rw [hfirst]
    exact List.mem_cons_self
  have hbytes : (shortWord (letter :: letters)).data.toList =
      0x2D :: first :: (rest ++ letters.flatMap String.utf8EncodeChar) := by
    rw [toList_shortWord, List.flatMap_cons, hfirst, List.cons_append]
  have hforms : String.fromUTF8?
      ⟨(first :: (rest ++ letters.flatMap String.utf8EncodeChar)).toArray⟩ =
        some (.ofList (letter :: letters)) := by
    rw [← fromUTF8?_bytes, toList_toUTF8, String.toList_ofList, List.flatMap_cons, hfirst,
      List.cons_append]
  have hread : progress.read command (shortWord (letter :: letters)) =
      progress.clustered command (first :: (rest ++ letters.flatMap String.utf8EncodeChar)) := by
    rw [read, hopened, hbytes]
    simp [hplain]
  rw [hread, clustered, hforms]
  dsimp only
  rw [String.toList_ofList]

theorem read_dashes (hopened : progress.verbatim = false) :
    progress.read command dashes = .ok { progress with verbatim := true } := by
  rw [read, hopened]
  rfl

theorem read_plain (hopened : progress.verbatim = false) (hplain : ¬ Dashed word) :
    progress.read command word = progress.plain command word := by
  rw [read, hopened]
  rw [Dashed] at hplain
  generalize word.data.toList = bytes at hplain
  split
  · contradiction
  · split <;> simp_all

/-! ## Values that are looked at -/

/-- A value that passes is a path or a text, and the first of its argument. -/
theorem look_cases (hlook : progress.look argument word = .ok next) :
    (∃ shown, argument.kind = .path shown ∧
        next = { progress with paths := (argument.name, word) :: progress.paths }) ∨
      ∃ shown text, argument.kind = .text shown ∧
        next = { progress with texts := (argument.name, text) :: progress.texts } := by
  rw [look] at hlook
  split at hlook
  · cases hlook
  · next shown hkind =>
    split_ifs at hlook <;> cases hlook
    exact .inl ⟨shown, hkind, rfl⟩
  · next shown hkind =>
    split at hlook
    · cases hlook
    · next text htext =>
      split_ifs at hlook <;> cases hlook
      exact .inr ⟨shown, text, hkind, rfl⟩

theorem look_path {shown : String} (hkind : argument.kind = .path shown)
    (hsome : word.isEmpty = false) (hnew : progress.paths.lookup argument.name = none) :
    progress.look argument word =
      .ok { progress with paths := (argument.name, word) :: progress.paths } := by
  rw [look, hkind]
  simp [hsome, hnew]

theorem look_text {shown : String} (hkind : argument.kind = .text shown)
    (hnew : progress.texts.lookup argument.name = none) :
    progress.look argument value.toUTF8 =
      .ok { progress with texts := (argument.name, value) :: progress.texts } := by
  rw [look, hkind, Text.fromUTF8?_eq_some_iff.mpr rfl]
  simp [hnew]

theorem settle_of_none (hpending : progress.pending = none) : progress.settle = .ok progress := by
  obtain ⟨flags, paths, texts, pending, named, verbatim⟩ := progress
  cases hpending
  rfl

theorem settle_cases (hsettle : progress.settle = .ok settled) :
    (progress.pending = none ∧ settled = progress) ∨
      ∃ argument word, progress.pending = some (argument, some word) ∧
        { progress with pending := none }.look argument word = .ok settled := by
  rcases hpending : progress.pending with _ | ⟨argument, _ | word⟩
  · rw [settle_of_none hpending] at hsettle
    exact .inl ⟨rfl, (Except.ok.inj hsettle).symm⟩
  · rw [settle, hpending] at hsettle
    cases hsettle
  · rw [settle, hpending] at hsettle
    exact .inr ⟨argument, word, rfl, hsettle⟩

/-- A value passes as well where words are taken as they are. -/
theorem look_verbatim (hlook : progress.look argument word = .ok next) :
    { progress with verbatim := true }.look argument word =
      .ok { next with verbatim := true } := by
  rw [look] at hlook ⊢
  split at hlook
  · cases hlook
  · split_ifs at hlook ⊢ <;> cases hlook
    rfl
  · split at hlook
    · cases hlook
    · split_ifs at hlook ⊢ <;> cases hlook
      rfl

theorem settle_verbatim (hsettle : progress.settle = .ok settled) :
    { progress with verbatim := true }.settle = .ok { settled with verbatim := true } := by
  rcases settle_cases hsettle with ⟨hpending, rfl⟩ | ⟨argument, word, hpending, hlook⟩
  · exact settle_of_none hpending
  · rw [settle]
    simp only [hpending]
    exact look_verbatim hlook

/-! ## Progress behind which arguments may stand -/

/-- Words are not yet taken as they are, and the value of the argument that stands by itself is
found or pending if it has been named. -/
structure Open (command : Command) (progress : Progress) : Prop where
  verbatim : progress.verbatim = false
  named : progress.named = true → ∀ argument, command.bare? = some argument →
    (∃ word, progress.pending = some (argument, some word)) ∨
      (progress.paths.lookup argument.name).isSome

/-- The same of a progress of which everything has been looked at. -/
structure Calm (command : Command) (progress : Progress) : Prop where
  pending : progress.pending = none
  verbatim : progress.verbatim = false
  named : progress.named = true → ∀ argument, command.bare? = some argument →
    (progress.paths.lookup argument.name).isSome

theorem Calm.toOpen (hcalm : progress.Calm command) : progress.Open command :=
  ⟨hcalm.verbatim, fun hnamed argument hbare => .inr (hcalm.named hnamed argument hbare)⟩

theorem isSome_lookup_cons {paths : List (String × OsText)} {name other : String}
    (hfound : (paths.lookup name).isSome) : (((other, word) :: paths).lookup name).isSome := by
  rw [List.lookup_cons]
  split
  · rfl
  · exact hfound

theorem Calm.look (hcalm : progress.Calm command)
    (hlook : progress.look argument word = .ok next) : next.Calm command := by
  obtain ⟨shown, -, rfl⟩ | ⟨shown, text, -, rfl⟩ := look_cases hlook
  · exact ⟨hcalm.pending, hcalm.verbatim, fun hnamed other hbare =>
      isSome_lookup_cons (hcalm.named hnamed other hbare)⟩
  · exact ⟨hcalm.pending, hcalm.verbatim, hcalm.named⟩

/-- The argument that stands by itself takes a path. -/
theorem kind_bare? (hsound : command.Sound) (hbare : command.bare? = some argument) :
    ∃ shown, argument.kind = .path shown := by
  obtain ⟨only, shown, honly, hkind⟩ := hsound.bare
  have hmem : argument ∈ command.arguments.filter (·.isBare) :=
    List.mem_filter.mpr ⟨List.mem_of_find?_eq_some hbare, List.find?_some hbare⟩
  rw [honly, List.mem_singleton] at hmem
  exact ⟨shown, hmem ▸ hkind⟩

theorem Open.settle (hsound : command.Sound) (hopen : progress.Open command)
    (hsettle : progress.settle = .ok settled) : settled.Calm command := by
  rcases settle_cases hsettle with ⟨hpending, rfl⟩ | ⟨argument, word, hpending, hlook⟩
  · refine ⟨hpending, hopen.verbatim, fun hnamed other hbare => ?_⟩
    refine (hopen.named hnamed other hbare).resolve_left ?_
    rintro ⟨word, hword⟩
    cases hpending.symm.trans hword
  · obtain ⟨shown, -, rfl⟩ | ⟨shown, text, htext, rfl⟩ := look_cases hlook
    · refine ⟨rfl, hopen.verbatim, fun hnamed other hbare => ?_⟩
      rcases hopen.named hnamed other hbare with ⟨value, hvalue⟩ | hfound
      · cases hpending.symm.trans hvalue
        simp
      · exact isSome_lookup_cons hfound
    · refine ⟨rfl, hopen.verbatim, fun hnamed other hbare => ?_⟩
      refine (hopen.named hnamed other hbare).resolve_left ?_
      rintro ⟨value, hvalue⟩
      cases hpending.symm.trans hvalue
      obtain ⟨other, hpath⟩ := kind_bare? hsound hbare
      cases hpath.symm.trans htext

/-! ## One word -/

theorem Open.flag (hsound : command.Sound) (hopen : progress.Open command)
    (hflag : progress.flag argument = .ok next) : next.Open command := by
  obtain ⟨settled, hsettle, hnext⟩ := exists_of_bind_eq_ok hflag
  have hcalm := hopen.settle hsound hsettle
  split_ifs at hnext <;> cases hnext
  exact ⟨hcalm.verbatim, hcalm.toOpen.named⟩

theorem Open.long (hsound : command.Sound) (hopen : progress.Open command)
    {attached : Option OsText} (hlong : progress.long command form attached = .ok next) :
    next.Open command := by
  rw [Progress.long] at hlong
  split at hlong
  · cases hlong
  · split at hlong
    · exact hopen.flag hsound hlong
    · cases hlong
    · obtain ⟨settled, hsettle, hnext⟩ := exists_of_bind_eq_ok hlong
      have hcalm := hopen.settle hsound hsettle
      cases hnext
      exact ⟨hcalm.verbatim, fun hnamed other hbare => .inr (hcalm.named hnamed other hbare)⟩
    · obtain ⟨settled, hsettle, hlook⟩ := exists_of_bind_eq_ok hlong
      exact ((hopen.settle hsound hsettle).look hlook).toOpen

theorem Open.short (hsound : command.Sound) (hopen : progress.Open command) {letter : Char}
    (hshort : progress.short command letter = .ok next) : next.Open command := by
  rw [Progress.short] at hshort
  split at hshort
  · cases hshort
  · exact hopen.flag hsound hshort

theorem Open.shorts (hsound : command.Sound) (hopen : progress.Open command)
    (hshorts : letters.foldlM (Progress.short command) progress = .ok next) :
    next.Open command := by
  induction letters generalizing progress with
  | nil => exact Except.ok.inj hshorts ▸ hopen
  | cons letter rest ih =>
    rw [List.foldlM_cons] at hshorts
    obtain ⟨middle, hfirst, hrest⟩ := exists_of_bind_eq_ok hshorts
    exact ih (hopen.short hsound hfirst) hrest

theorem Open.bare (hsound : command.Sound) (hopen : progress.Open command)
    (hword : progress.bare command word = .ok next) : next.Open command := by
  rw [Progress.bare] at hword
  split at hword
  · next argument hbare hnamed =>
    obtain ⟨settled, hsettle, hnext⟩ := exists_of_bind_eq_ok hword
    have hcalm := hopen.settle hsound hsettle
    cases hnext
    refine ⟨hcalm.verbatim, fun _ other hother => .inl ⟨word, ?_⟩⟩
    cases hbare.symm.trans hother
    rfl
  · cases hword

theorem Open.plain (hsound : command.Sound) (hopen : progress.Open command)
    (hword : progress.plain command word = .ok next) : next.Open command := by
  rw [Progress.plain] at hword
  split at hword
  · next argument hpending =>
    cases hword
    refine ⟨hopen.verbatim, fun hnamed other hbare => .inr ?_⟩
    refine (hopen.named hnamed other hbare).resolve_left ?_
    rintro ⟨value, hvalue⟩
    cases hpending.symm.trans hvalue
  · exact hopen.bare hsound hword

theorem Open.dashed (hsound : command.Sound) (hopen : progress.Open command) {rest : List UInt8}
    (hword : progress.dashed command rest = .ok next) : next.Open command := by
  rw [Progress.dashed] at hword
  generalize rest.span (· ≠ 0x3D) = parts at hword
  dsimp only at hword
  split at hword
  · cases hword
  · exact hopen.long hsound hword
  · exact hopen.long hsound hword

/-- Arguments may stand behind any word but the dashes. -/
theorem Open.read (hsound : command.Sound) (hopen : progress.Open command) (hother : dashes ≠ word)
    (hword : progress.read command word = .ok next) : next.Open command := by
  rw [Progress.read, hopen.verbatim, if_neg Bool.false_ne_true] at hword
  split at hword
  · next hdashes => exact absurd (ByteArray.ext (Array.toList_inj.mp hdashes)).symm hother
  · exact hopen.dashed hsound hword
  · rw [clustered] at hword
    split at hword
    · cases hword
    · exact hopen.shorts hsound hword
  · exact hopen.plain hsound hword

/-- The induction is on the words. -/
theorem Open.reads (hsound : command.Sound) (hopen : progress.Open command) {words : List OsText}
    (hopened : dashes ∉ words) (hwords : words.foldlM (Progress.read command) progress = .ok next) :
    next.Open command := by
  induction words generalizing progress with
  | nil => exact Except.ok.inj hwords ▸ hopen
  | cons word rest ih =>
    obtain ⟨hfirst, hrest⟩ := not_or.mp (mt List.mem_cons.mpr hopened)
    rw [List.foldlM_cons] at hwords
    obtain ⟨middle, hword, hlater⟩ := exists_of_bind_eq_ok hwords
    exact ih (hopen.read hsound hfirst hword) hrest hlater

theorem open_nil : ({} : Progress).Open command := ⟨rfl, nofun⟩

end Progress

/-! ## Whole command lines -/

section Laws

open CommandLine.Progress

variable {command : Command} {progress settled : Progress} {words more : List OsText}
  {found : Matches} {argument : Argument} {form : String} {letter : Char}

/-- What is found when the words are at an end. -/
def Progress.finish (progress : Progress) : Except Stop Matches := do
  return (← progress.settle).found

theorem read_append (hprogress : words.foldlM (Progress.read command) {} = .ok progress) :
    read command (words ++ more) = more.foldlM (Progress.read command) progress >>= finish := by
  have hread : read command (words ++ more) =
      (words ++ more).foldlM (Progress.read command) {} >>= finish := rfl
  rw [hread, List.foldlM_append, hprogress]
  rfl

theorem exists_settled (hsound : command.Sound)
    (hfinds : Reader.Finds read command words found) :
    ∃ progress settled, words.foldlM (Progress.read command) {} = .ok progress ∧
      progress.Open command ∧ progress.settle = .ok settled ∧ settled.Calm command ∧
      settled.found = found := by
  obtain ⟨progress, hprogress, hfinish⟩ := exists_of_bind_eq_ok hfinds.read_eq
  obtain ⟨settled, hsettle, hfound⟩ := exists_of_bind_eq_ok hfinish
  have hopen := open_nil.reads hsound hfinds.opened hprogress
  exact ⟨progress, settled, hprogress, hopen, hsettle, hopen.settle hsound hsettle,
    Except.ok.inj hfound⟩

theorem finish_of_none (hpending : progress.pending = none) :
    progress.finish = .ok progress.found := by
  rw [finish, settle_of_none hpending]
  rfl

/-- Words that are read alike behind other words say the same. -/
theorem read_congr (hsound : command.Sound) (hopened : dashes ∉ words) {other : List OsText}
    (hread : read command (words ++ more) = .ok found)
    (hsame : ∀ progress : Progress, progress.Open command →
      other.foldlM (Progress.read command) progress >>= finish =
        more.foldlM (Progress.read command) progress >>= finish) :
    read command (words ++ other) = .ok found := by
  rcases hprogress : words.foldlM (Progress.read command) {} with stop | progress
  · have hfails : read command (words ++ more) =
        (words ++ more).foldlM (Progress.read command) {} >>= finish := rfl
    rw [hfails, List.foldlM_append, hprogress] at hread
    cases hread
  · rw [read_append hprogress, hsame progress (open_nil.reads hsound hopened hprogress),
      ← read_append hprogress, hread]

/-! ## Arguments that can be told apart -/

/-- What is looked for by a key of its own is found. -/
theorem find?_key_of_nodup {α κ : Type} [BEq κ] [LawfulBEq κ] {key : α → Option κ} {list : List α}
    (hdistinct : (list.filterMap key).Nodup) {item : α} (hitem : item ∈ list) {value : κ}
    (hvalue : key item = some value) : list.find? (key · == some value) = some item := by
  induction list with
  | nil => cases hitem
  | cons first rest ih =>
    by_cases hfirst : key first = some value
    · rw [List.find?_cons_of_pos (by simp [hfirst])]
      rcases List.mem_cons.mp hitem with rfl | hrest
      · rfl
      · rw [List.filterMap_cons_some hfirst, List.nodup_cons] at hdistinct
        exact absurd (List.mem_filterMap.mpr ⟨item, hrest, hvalue⟩) hdistinct.1
    · have hrest : item ∈ rest := by
        refine (List.mem_cons.mp hitem).resolve_left ?_
        rintro rfl
        exact hfirst hvalue
      rw [List.find?_cons_of_neg (by simpa using hfirst)]
      exact ih (hdistinct.sublist ((List.sublist_cons_self first rest).filterMap key)) hrest

theorem findLong?_eq (hsound : command.Sound) (hknown : argument ∈ command.arguments)
    (hform : argument.long = some form) : command.findLong? form = some argument := by
  rw [Command.findLong?, Command.all, List.find?_append,
    find?_key_of_nodup hsound.longs hknown hform, Option.some_or]

theorem findShort?_eq (hsound : command.Sound) (hknown : argument ∈ command.arguments)
    (hletter : argument.short = some letter) : command.findShort? letter = some argument := by
  rw [Command.findShort?, Command.all, List.find?_append,
    find?_key_of_nodup hsound.shorts hknown hletter, Option.some_or]

theorem bare?_eq (hsound : command.Sound) (hknown : argument ∈ command.arguments)
    (hbare : argument.isBare = true) : command.bare? = some argument := by
  obtain ⟨only, shown, honly, -⟩ := hsound.bare
  have hmem : argument ∈ command.arguments.filter (·.isBare) := List.mem_filter.mpr ⟨hknown, hbare⟩
  rw [honly, List.mem_singleton] at hmem
  rw [Command.bare?, ← List.head?_filter, honly, hmem, List.head?_cons]

theorem ne_help (hsound : command.Sound) (hknown : argument ∈ command.arguments) :
    argument ≠ .help := by
  rintro rfl
  exact (List.nodup_cons.mp hsound.names).1 (List.mem_map_of_mem hknown)

/-! ## What one word more says -/

theorem flag_of_settle (hsettle : progress.settle = .ok settled) (hother : argument ≠ .help)
    (hnew : settled.found.flag argument.name = false) :
    progress.flag argument = .ok { settled with flags := argument.name :: settled.flags } := by
  have hnever : settled.flags.contains argument.name = false := hnew
  rw [Progress.flag, hsettle]
  simp only [bind, Except.bind, if_neg hother, hnever, Bool.false_eq_true, if_false]
  rfl

theorem lookup_cons_eq {α : Type} (known : List (String × α)) (name other : String) (value : α) :
    ((name, value) :: known).lookup other =
      if other = name then some value else known.lookup other := by
  rw [List.lookup_cons]
  by_cases hsame : other = name
  · rw [if_pos hsame, beq_iff_eq.mpr hsame]
  · rw [if_neg hsame, beq_eq_false_iff_ne.mpr hsame]

theorem found_flag (settled : Progress) (name : String) :
    Progress.found { settled with flags := name :: settled.flags } =
      settled.found.setFlag name := by
  rw [Progress.found, Matches.setFlag, Matches.mk.injEq]
  exact ⟨funext fun other => List.contains_cons, rfl, rfl⟩

theorem found_path (settled : Progress) (name : String) (path : OsText) :
    Progress.found { settled with paths := (name, path) :: settled.paths } =
      settled.found.setPath name path := by
  rw [Progress.found, Matches.setPath, Matches.mk.injEq]
  exact ⟨rfl, funext fun other => lookup_cons_eq settled.paths name other path, rfl⟩

theorem found_text (settled : Progress) (name text : String) :
    Progress.found { settled with texts := (name, text) :: settled.texts } =
      settled.found.setText name text := by
  rw [Progress.found, Matches.setText, Matches.mk.injEq]
  exact ⟨rfl, rfl, funext fun other => lookup_cons_eq settled.texts name other text⟩

/-! ## The conventions -/

theorem long_flag (hsound : command.Sound) (hknown : argument ∈ command.arguments)
    (hflag : argument.kind = .flag) (hform : argument.long = some form) :
    progress.long command form none = progress.flag argument := by
  rw [Progress.long, findLong?_eq hsound hknown hform]
  simp only [Argument.value?, hflag]

theorem foldlM_single (word : OsText) :
    [word].foldlM (Progress.read command) progress = progress.read command word := by
  rw [List.foldlM_cons]
  exact bind_pure _

theorem read_flag (hsound : command.Sound) (hknown : argument ∈ command.arguments)
    (hflag : argument.kind = .flag) (hform : argument.long = some form)
    (hopen : progress.Open command) :
    progress.read command (longWord form) = progress.flag argument := by
  obtain ⟨hsome, -, -, hsign⟩ := hsound.long argument hknown form hform
  rw [read_longWord hopen.verbatim hsome hsign, long_flag hsound hknown hflag hform]

theorem read_letter (hsound : command.Sound) (hknown : argument ∈ command.arguments)
    (hletter : argument.short = some letter) (hopen : progress.Open command) :
    progress.read command (shortWord [letter]) = progress.flag argument := by
  obtain ⟨-, hdash, -⟩ := hsound.short argument hknown letter hletter
  rw [read_shortWord hopen.verbatim hdash, List.foldlM_cons, Progress.short,
    findShort?_eq hsound hknown hletter]
  exact bind_pure _

/-- Letters that share a word are read one after the other. -/
theorem foldlM_letters (hsound : command.Sound) {letters : List Char}
    (hknown : ∀ letter ∈ letters, ∃ argument ∈ command.arguments,
      argument.kind = .flag ∧ argument.short = some letter)
    (hopen : progress.Open command) :
    (letters.map fun letter => shortWord [letter]).foldlM (Progress.read command) progress =
      letters.foldlM (Progress.short command) progress := by
  induction letters generalizing progress with
  | nil => rfl
  | cons letter rest ih =>
    obtain ⟨⟨argument, hargument, -, hletter⟩, hrest⟩ := List.forall_mem_cons.mp hknown
    have hfirst : progress.read command (shortWord [letter]) = progress.short command letter := by
      rw [read_letter hsound hargument hletter hopen, Progress.short,
        findShort?_eq hsound hargument hletter]
    rw [List.map_cons, List.foldlM_cons, List.foldlM_cons, hfirst]
    rcases hshort : progress.short command letter with stop | next
    · rfl
    · exact ih hrest (hopen.short hsound hshort)

theorem long_value (hsound : command.Sound) (hknown : argument ∈ command.arguments)
    {shown : String} (htext : argument.kind = .text shown) (hform : argument.long = some form)
    (attached : Option OsText) :
    progress.long command form attached =
      match attached with
      | none => progress.settle >>= fun settled =>
          .ok { settled with pending := some (argument, none) }
      | some word => progress.settle >>= fun settled => settled.look argument word := by
  rw [Progress.long, findLong?_eq hsound hknown hform]
  cases attached with
  | none =>
    simp only [Argument.value?, htext]
    rfl
  | some word => simp only [Argument.value?, htext]

theorem plain_of_settle (hsettle : progress.settle = .ok settled) (word : OsText) :
    progress.plain command word = progress.bare command word := by
  rw [Progress.plain]
  split
  · next argument hpending =>
    rw [settle, hpending] at hsettle
    cases hsettle
  · rfl

theorem Progress.Open.named_eq_false (hopen : progress.Open command) (hsound : command.Sound)
    (hsettle : progress.settle = .ok settled) (hbare : command.bare? = some argument)
    (hnew : settled.found.path argument.name = none) : progress.named = false := by
  have hcalm := hopen.settle hsound hsettle
  have hsame : settled.named = progress.named := by
    rcases settle_cases hsettle with ⟨-, rfl⟩ | ⟨other, word, -, hlook⟩
    · rfl
    · obtain ⟨shown, -, rfl⟩ | ⟨shown, text, -, rfl⟩ := look_cases hlook <;> rfl
  rw [← hsame, ← Bool.not_eq_true]
  intro hnamed
  have hfound := hcalm.named hnamed argument hbare
  rw [show settled.paths.lookup argument.name = none from hnew] at hfound
  cases hfound

/-- The value that is pending is looked at in the end. -/
theorem finish_of_pending {word : OsText}
    (hpending : progress.pending = some (argument, some word)) :
    progress.finish = { progress with pending := none }.look argument word >>= fun looked =>
      .ok looked.found := by
  rw [finish, settle, hpending]
  rfl

theorem look_finish (hcalm : settled.Calm command) (word : OsText) :
    settled.look argument word >>= finish =
      settled.look argument word >>= fun looked => .ok looked.found := by
  rcases hlook : settled.look argument word with stop | looked
  · rfl
  · exact finish_of_none (hcalm.look hlook).pending

/-- What follows the name of an argument is its value, which is looked at in the end. -/
theorem apart_finish (hcalm : settled.Calm command) {word : OsText} (hplain : ¬ Dashed word) :
    [word].foldlM (Progress.read command) { settled with pending := some (argument, none) } >>=
        finish =
      settled.look argument word >>= finish := by
  have hword : { settled with pending := some (argument, none) }.read command word =
      .ok { settled with pending := some (argument, some word) } :=
    read_plain hcalm.verbatim hplain
  have hfinish : finish { settled with pending := some (argument, some word) } =
      { settled with pending := none }.look argument word >>= fun looked => .ok looked.found :=
    finish_of_pending rfl
  have hsame : { settled with pending := none } = settled := by
    rw [← hcalm.pending]
  rw [hsame] at hfinish
  rw [foldlM_single, hword, look_finish hcalm]
  exact hfinish

/-- A word that is taken for the argument without a form passes in the end. -/
theorem bare_finish (hsound : command.Sound) (hknown : argument ∈ command.arguments)
    (hbare : argument.isBare = true) (hsettle : progress.settle = .ok settled)
    (hnamed : progress.named = false) {word : OsText}
    (hnew : settled.found.path argument.name = none) (hsome : word.isEmpty = false) :
    progress.bare command word >>= finish = .ok (settled.found.setPath argument.name word) := by
  have hfirst := bare?_eq hsound hknown hbare
  obtain ⟨shown, hkind⟩ := kind_bare? hsound hfirst
  have hword : progress.bare command word =
      .ok { settled with pending := some (argument, some word), named := true } := by
    rw [Progress.bare, hfirst, hnamed, hsettle]
    rfl
  have hlook : { settled with pending := none, named := true }.look argument word =
      .ok { settled with
        paths := (argument.name, word) :: settled.paths, pending := none, named := true } :=
    look_path hkind hsome hnew
  have hfinish : finish { settled with pending := some (argument, some word), named := true } =
      { settled with pending := none, named := true }.look argument word >>= fun looked =>
        .ok looked.found := finish_of_pending rfl
  rw [hlook] at hfinish
  rw [hword, ← found_path]
  exact hfinish

theorem conventional_read : Reader.Conventional read where
  nothing _ := rfl
  long hsound hfinds hknown hflag hform hnew := by
    obtain ⟨progress, settled, hprogress, hopen, hsettle, hcalm, rfl⟩ :=
      exists_settled hsound hfinds
    rw [read_append hprogress, foldlM_single, read_flag hsound hknown hflag hform hopen,
      flag_of_settle hsettle (ne_help hsound hknown) hnew, ← found_flag]
    exact finish_of_none hcalm.pending
  -- The other spellings are read alike behind any words, be the outcome a fault or not.
  short hsound hopened hknown hflag hform hletter hlong := by
    refine read_congr hsound hopened hlong fun progress hopen => ?_
    rw [foldlM_single, foldlM_single, read_letter hsound hknown hletter hopen,
      read_flag hsound hknown hflag hform hopen]
  cluster hsound hopened hsome hknown hsingle := by
    refine read_congr hsound hopened hsingle fun progress hopen => ?_
    obtain ⟨letter, rest, rfl⟩ := List.exists_cons_of_ne_nil hsome
    obtain ⟨argument, hargument, -, hletter⟩ := hknown letter List.mem_cons_self
    obtain ⟨-, hdash, -⟩ := hsound.short argument hargument letter hletter
    rw [foldlM_single, read_shortWord hopen.verbatim hdash, foldlM_letters hsound hknown hopen]
  attached hsound hfinds hknown htext hform hnew hsome := by
    obtain ⟨progress, settled, hprogress, hopen, hsettle, hcalm, rfl⟩ :=
      exists_settled hsound hfinds
    obtain ⟨-, -, -, hsign⟩ := hsound.long _ hknown _ hform
    rw [read_append hprogress, foldlM_single, read_valueWord hopen.verbatim hsign,
      long_value hsound hknown htext hform, hsettle, ← found_text]
    dsimp only [bind, Except.bind]
    rw [look_text htext hnew]
    exact finish_of_none hcalm.pending
  apart hsound hopened hknown htext hform hsome hplain hattached := by
    refine read_congr hsound hopened hattached fun progress hopen => ?_
    obtain ⟨hsome, -, -, hsign⟩ := hsound.long _ hknown _ hform
    rw [foldlM_single, read_valueWord hopen.verbatim hsign, List.foldlM_cons,
      read_longWord hopen.verbatim hsome hsign, long_value hsound hknown htext hform,
      long_value hsound hknown htext hform]
    rcases hsettle : progress.settle with stop | settled
    · rfl
    · have hcalm := hopen.settle hsound hsettle
      exact apart_finish hcalm hplain
  bare hsound hfinds hknown hbare hnew hsome hplain := by
    obtain ⟨progress, settled, hprogress, hopen, hsettle, hcalm, rfl⟩ :=
      exists_settled hsound hfinds
    rw [read_append hprogress, foldlM_single, read_plain hopen.verbatim hplain,
      plain_of_settle hsettle]
    exact bare_finish hsound hknown hbare hsettle
      (hopen.named_eq_false hsound hsettle (bare?_eq hsound hknown hbare) hnew) hnew hsome
  verbatim hsound hfinds hknown hbare hnew hsome := by
    obtain ⟨progress, settled, hprogress, hopen, hsettle, hcalm, rfl⟩ :=
      exists_settled hsound hfinds
    have hnamed := hopen.named_eq_false hsound hsettle (bare?_eq hsound hknown hbare) hnew
    have hbare := bare_finish hsound hknown hbare (settle_verbatim hsettle) hnamed hnew hsome
    rw [read_append hprogress, List.foldlM_cons, read_dashes hopen.verbatim]
    exact (congrArg (· >>= finish) (foldlM_single _)).trans hbare

end Laws

end PassPipeline.CommandLine
