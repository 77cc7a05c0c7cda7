import Mathlib.Data.List.Nodup
import Mathlib.Tactic.Common
import PassPipeline.Proofs.CommandLine.Conventions
import PassPipeline.Proofs.Text.Bytes

/-!
# Command lines that are written

What a command line says can be written in many ways: the arguments come in any order, a flag has
a long and perhaps a short form, short forms may share a word, and there are two ways to name each
file (`Spells`, `Writes`).  However it is written, the words are read as what they were written
for (`parse_writes`), if the reader goes by the conventions and the forms of the arguments can be
told apart.

`Tells` is about what the reader has found so far.  Words that spell something add that to it, and
nothing else (`Tells.spells`), so the order in which things are written cannot matter.
-/

namespace PassPipeline.CommandLine

/-! ## What can be written -/

/-- Something that a command line says. -/
inductive Item where
  /-- The flag of that name is set. -/
  | flag (name : String)
  | config (path : String)
  | input (path : OsText)
  deriving DecidableEq

/-- The name of the argument. -/
def Item.name : Item → String
  | .flag name => name
  | .config _ => "config"
  | .input _ => "input"

/-- All that the command line says. -/
def items (line : CommandLine) : List Item :=
  line.selected.map .flag ++ (if line.metrics then [.flag "metrics"] else []) ++
    (if line.verbose then [.flag "verbose"] else []) ++ line.config.toList.map .config ++
    line.input.toList.map .input

/-- The words are a way to say so. -/
inductive Spells (command : Command) : List Item → List OsText → Prop
  | long {argument : Argument} {form : String} (hknown : argument ∈ command.arguments)
      (hflag : argument.kind = .flag) (hform : argument.long = some form) :
      Spells command [.flag argument.name] [longWord form]
  /-- The short forms share a word. -/
  | cluster {arguments : List Argument} {letters : List Char}
      (hknown : ∀ argument ∈ arguments, argument ∈ command.arguments ∧ argument.kind = .flag)
      (hletters : arguments.map (·.short) = letters.map some) (hsome : letters ≠ []) :
      Spells command (arguments.map fun argument => .flag argument.name) [shortWord letters]
  | attached (path : String) : Spells command [.config path] [valueWord "config" path]
  | apart {path : String} (hplain : ¬ Dashed path.toUTF8) :
      Spells command [.config path] [longWord "config", path.toUTF8]
  | bare {path : OsText} (hplain : ¬ Dashed path) : Spells command [.input path] [path]

/-- The words say so, one item after the other. -/
inductive Writes (command : Command) : List Item → List OsText → Prop
  | done : Writes command [] []
  | last (path : OsText) : Writes command [.input path] [dashes, path]
  | next {first rest : List Item} {words more : List OsText}
      (hspells : Spells command first words) (hwrites : Writes command rest more) :
      Writes command (first ++ rest) (words ++ more)

/-- The command has the arguments of the program: files as values, and flags that each have a
long form. -/
structure Command.Fit (command : Command) : Prop where
  sound : command.Sound
  input : Argument.input ∈ command.arguments
  config : Argument.config ∈ command.arguments
  flag : ∀ argument ∈ command.arguments, argument.kind = .flag → argument.long.isSome = true

/-! ## What has been found -/

section Reading

variable {ε : Type} {read : Reader ε} {command : Command} {words : List OsText}
  {found : Matches} {done : List Item}

/-- Just so much has been found. -/
structure Matches.Says (found : Matches) (done : List Item) : Prop where
  flag : ∀ name, found.flag name = true ↔ .flag name ∈ done
  config : ∀ path, found.text "config" = some path ↔ .config path ∈ done
  input : ∀ path, found.path "input" = some path ↔ .input path ∈ done

/-- The item was found as well. -/
def Matches.add (found : Matches) : Item → Matches
  | .flag name => found.setFlag name
  | .config path => found.setText "config" path
  | .input path => found.setPath "input" path

theorem Matches.Says.add (htold : found.Says done) {item : Item}
    (hnew : item.name ∉ done.map Item.name) : (found.add item).Says (done ++ [item]) where
  flag name := by
    rw [List.mem_append, ← htold.flag]
    cases item <;> simp [Matches.add, setFlag, setText, setPath, or_comm]
  config path := by
    rw [List.mem_append]
    cases item with
    | config other =>
      -- There was no path before, so the one that is found is the new one.
      have hnone : .config path ∉ done := fun hmem => hnew (List.mem_map.mpr ⟨_, hmem, rfl⟩)
      simp [Matches.add, setText, hnone, eq_comm]
    | _ => simp [Matches.add, setFlag, setPath, htold.config]
  input path := by
    rw [List.mem_append]
    cases item with
    | input other =>
      have hnone : .input path ∉ done := fun hmem => hnew (List.mem_map.mpr ⟨_, hmem, rfl⟩)
      simp [Matches.add, setPath, hnone, eq_comm]
    | _ => simp [Matches.add, setFlag, setText, htold.input]

/-- Just so much has been found, in words behind which other arguments may stand. -/
structure Tells (read : Reader ε) (command : Command) (words : List OsText) (done : List Item)
    (found : Matches) : Prop extends read.Finds command words found, found.Says done

theorem tells_nil (hread : read.Conventional) (hfit : command.Fit) :
    Tells read command [] [] {} where
  opened := List.not_mem_nil
  read_eq := hread.nothing hfit.sound
  flag := by simp
  config := by simp
  input := by simp

/-- A new item is all that is added. -/
theorem Tells.add (htells : Tells read command words done found) {item : Item}
    (hnew : item.name ∉ done.map Item.name) {added : List OsText} (hopened : dashes ∉ added)
    (hread : read command (words ++ added) = .ok (found.add item)) :
    Tells read command (words ++ added) (done ++ [item]) (found.add item) where
  toFinds := ⟨fun hmem => (List.mem_append.mp hmem).elim htells.opened hopened, hread⟩
  toSays := htells.toSays.add hnew

/-- Other words of which the same is found tell the same. -/
theorem Tells.respell {added other : List OsText}
    (htells : Tells read command (words ++ added) done found) (hopened : dashes ∉ other)
    (hread : read command (words ++ other) = .ok found) :
    Tells read command (words ++ other) done found where
  toFinds := by
    refine ⟨fun hmem => (List.mem_append.mp hmem).elim (fun hbefore => ?_) hopened, hread⟩
    exact htells.opened (List.mem_append_left _ hbefore)
  toSays := htells.toSays

/-- What is still to come is new. -/
theorem notMem_of_nodup {name : String} {rest : List String}
    (hfresh : (done.map Item.name ++ name :: rest).Nodup) : name ∉ done.map Item.name :=
  fun hmem => (List.nodup_append.mp hfresh).2.2 name hmem name List.mem_cons_self rfl

/-! ## Words that are not dashes -/

theorem longWord_ne_dashes {form : String} (hsome : form ≠ "") : dashes ≠ longWord form := by
  intro heq
  have hlist := congrArg String.toList (String.toByteArray_inj.mp heq)
  rw [String.toList_append] at hlist
  exact hsome (String.toList_eq_nil_iff.mp (List.append_right_eq_self.mp hlist.symm))

theorem shortWord_ne_dashes {letters : List Char} (hdash : '-' ∉ letters) :
    dashes ≠ shortWord letters := by
  intro heq
  have hlist := congrArg String.toList (String.toByteArray_inj.mp heq)
  rw [String.toList_append, String.toList_ofList] at hlist
  obtain rfl : letters = ['-'] := by simpa [eq_comm] using hlist
  exact hdash (List.mem_singleton_self '-')

theorem valueWord_ne_dashes (form value : String) : dashes ≠ valueWord form value := by
  intro heq
  have hlist := congrArg (List.length ∘ String.toList) (String.toByteArray_inj.mp heq)
  simp [String.toList_append] at hlist

theorem ne_dashes_of_not_dashed {word : OsText} (hplain : ¬ Dashed word) : dashes ≠ word := by
  rintro rfl
  exact hplain (by decide)

/-! ## Words that say something -/

theorem Tells.flag_eq_false (htells : Tells read command words done found) {name : String}
    (hnew : name ∉ done.map Item.name) : found.flag name = false := by
  rw [← Bool.not_eq_true, htells.flag]
  exact fun hmem => hnew (List.mem_map_of_mem (f := Item.name) hmem)

theorem Tells.config_eq_none (htells : Tells read command words done found)
    (hnew : "config" ∉ done.map Item.name) : found.text "config" = none := by
  refine Option.eq_none_iff_forall_ne_some.mpr fun path hpath => hnew ?_
  exact List.mem_map_of_mem (f := Item.name) ((htells.config path).mp hpath)

theorem Tells.input_eq_none (htells : Tells read command words done found)
    (hnew : "input" ∉ done.map Item.name) : found.path "input" = none := by
  refine Option.eq_none_iff_forall_ne_some.mpr fun path hpath => hnew ?_
  exact List.mem_map_of_mem (f := Item.name) ((htells.input path).mp hpath)

theorem Tells.long (hread : read.Conventional) (hfit : command.Fit)
    (htells : Tells read command words done found) {argument : Argument} {form : String}
    (hknown : argument ∈ command.arguments) (hflag : argument.kind = .flag)
    (hform : argument.long = some form) (hnew : argument.name ∉ done.map Item.name) :
    Tells read command (words ++ [longWord form]) (done ++ [.flag argument.name])
      (found.setFlag argument.name) := by
  have hword := longWord_ne_dashes (hfit.sound.long argument hknown form hform).1
  have hfound := hread.long hfit.sound htells.toFinds hknown hflag hform
    (htells.flag_eq_false hnew)
  exact @Tells.add _ _ _ _ _ _ htells (.flag argument.name) hnew _ (by simpa using hword) hfound

/-- Short forms in words of their own are read one after the other. -/
theorem Tells.shorts (hread : read.Conventional) (hfit : command.Fit)
    {arguments : List Argument} {letters : List Char}
    (hknown : ∀ argument ∈ arguments, argument ∈ command.arguments ∧ argument.kind = .flag)
    (hletters : arguments.map (·.short) = letters.map some)
    (htells : Tells read command words done found)
    (hfresh : (done.map Item.name ++ arguments.map (·.name)).Nodup) :
    ∃ next, Tells read command (words ++ letters.map fun letter => shortWord [letter])
      (done ++ arguments.map fun argument => .flag argument.name) next := by
  induction arguments generalizing letters words done found with
  | nil =>
    obtain rfl : letters = [] := by simpa using hletters.symm
    exact ⟨found, by simpa using htells⟩
  | cons argument rest ih =>
    obtain - | ⟨letter, letters⟩ := letters
    · cases hletters
    obtain ⟨hletter, hrestLetters⟩ := List.cons.inj hletters
    obtain ⟨⟨hargument, hflag⟩, hrest⟩ := List.forall_mem_cons.mp hknown
    obtain ⟨form, hform⟩ := Option.isSome_iff_exists.mp (hfit.flag argument hargument hflag)
    have hlong := htells.long hread hfit hargument hflag hform (notMem_of_nodup hfresh)
    have hdash : '-' ∉ [letter] := by
      simpa [eq_comm] using (hfit.sound.short argument hargument letter hletter).2.1
    -- The long form is read without a fault, so the short form may take its place.
    have hshort := hlong.respell (by simpa using shortWord_ne_dashes hdash)
      (hread.short hfit.sound htells.opened hargument hflag hform hletter hlong.read_eq)
    obtain ⟨next, hnext⟩ := ih hrest hrestLetters hshort (by
      simpa [Item.name, List.append_assoc] using hfresh)
    exact ⟨next, by simpa [List.append_assoc] using hnext⟩

/-- Every letter of a word is the short form of an argument that it is written for. -/
theorem exists_short {arguments : List Argument} {letters : List Char}
    (hletters : arguments.map (·.short) = letters.map some) {letter : Char}
    (hletter : letter ∈ letters) : ∃ argument ∈ arguments, argument.short = some letter := by
  have hmem : some letter ∈ arguments.map (·.short) := by
    rw [hletters]
    exact List.mem_map_of_mem hletter
  exact List.mem_map.mp hmem

/-- Short forms that share a word say what they say in words of their own. -/
theorem Tells.cluster (hread : read.Conventional) (hfit : command.Fit)
    {arguments : List Argument} {letters : List Char}
    (hknown : ∀ argument ∈ arguments, argument ∈ command.arguments ∧ argument.kind = .flag)
    (hletters : arguments.map (·.short) = letters.map some) (hsome : letters ≠ [])
    (htells : Tells read command words done found)
    (hfresh : (done.map Item.name ++ arguments.map (·.name)).Nodup) :
    ∃ next, Tells read command (words ++ [shortWord letters])
      (done ++ arguments.map fun argument => .flag argument.name) next := by
  have hdash : '-' ∉ letters := by
    intro hmem
    obtain ⟨argument, hargument, hshort⟩ := exists_short hletters hmem
    exact (hfit.sound.short argument (hknown argument hargument).1 '-' hshort).2.1 rfl
  have hflags : ∀ letter ∈ letters, ∃ argument ∈ command.arguments,
      argument.kind = .flag ∧ argument.short = some letter := by
    intro letter hletter
    obtain ⟨argument, hargument, hshort⟩ := exists_short hletters hletter
    obtain ⟨hmem, hflag⟩ := hknown argument hargument
    exact ⟨argument, hmem, hflag, hshort⟩
  obtain ⟨next, hnext⟩ := htells.shorts hread hfit hknown hletters hfresh
  exact ⟨next, hnext.respell (by simpa using shortWord_ne_dashes hdash)
    (hread.cluster hfit.sound htells.opened hsome hflags hnext.read_eq)⟩

/-- Words that spell something add that, and nothing else.  The cases are the ways to spell it. -/
theorem Tells.spells (hread : read.Conventional) (hfit : command.Fit) {more : List Item}
    {added : List OsText} (hspells : Spells command more added)
    (htells : Tells read command words done found)
    (hfresh : ((done ++ more).map Item.name).Nodup)
    (hconfig : ∀ path, .config path ∈ more → path ≠ "")
    (hinput : ∀ path, .input path ∈ more → path.isEmpty = false) :
    ∃ next, Tells read command (words ++ added) (done ++ more) next := by
  rw [List.map_append] at hfresh
  cases hspells with
  | long hknown hflag hform =>
    exact ⟨_, htells.long hread hfit hknown hflag hform (notMem_of_nodup hfresh)⟩
  | cluster hknown hletters hsome =>
    rw [List.map_map] at hfresh
    exact htells.cluster hread hfit hknown hletters hsome hfresh
  | attached path =>
    have hnew := notMem_of_nodup hfresh
    exact ⟨_, htells.add hnew (by simpa using valueWord_ne_dashes "config" path)
      (hread.attached hfit.sound htells.toFinds hfit.config rfl rfl (htells.config_eq_none hnew)
        (hconfig path List.mem_cons_self))⟩
  | @apart path hplain =>
    have hnew := notMem_of_nodup hfresh
    have hsome := hconfig path List.mem_cons_self
    have hattached := hread.attached hfit.sound htells.toFinds hfit.config rfl rfl
      (htells.config_eq_none hnew) hsome
    refine ⟨_, htells.add hnew ?_
      (hread.apart hfit.sound htells.opened hfit.config rfl rfl hsome hplain hattached)⟩
    have hname : dashes ≠ longWord "config" := longWord_ne_dashes (by decide)
    simpa using ⟨hname, ne_dashes_of_not_dashed hplain⟩
  | @bare path hplain =>
    have hnew := notMem_of_nodup hfresh
    exact ⟨_, htells.add hnew (by simpa using ne_dashes_of_not_dashed hplain)
      (hread.bare hfit.sound htells.toFinds hfit.input rfl (htells.input_eq_none hnew)
        (hinput path List.mem_cons_self) hplain)⟩

/-- The induction is on the ways to write, and what has been found is carried along. -/
theorem Tells.writes (hread : read.Conventional) (hfit : command.Fit) {rest : List Item}
    {added : List OsText} (hwrites : Writes command rest added)
    (htells : Tells read command words done found)
    (hfresh : ((done ++ rest).map Item.name).Nodup)
    (hconfig : ∀ path, .config path ∈ rest → path ≠ "")
    (hinput : ∀ path, .input path ∈ rest → path.isEmpty = false) :
    ∃ next, read command (words ++ added) = .ok next ∧ next.Says (done ++ rest) := by
  induction hwrites generalizing words done found with
  | done => exact ⟨found, by simpa using htells.read_eq, by simpa using htells.toSays⟩
  | last path =>
    rw [List.map_append] at hfresh
    have hnew := notMem_of_nodup hfresh
    -- Behind the dashes nothing else may stand, so this is the end.
    exact ⟨_, hread.verbatim hfit.sound htells.toFinds hfit.input rfl (htells.input_eq_none hnew)
      (hinput path List.mem_cons_self), htells.toSays.add hnew⟩
  | @next first rest added more hspells _ ih =>
    rw [← List.append_assoc] at hfresh ⊢
    have hfirst : ((done ++ first).map Item.name).Nodup := by
      rw [List.map_append] at hfresh
      exact (List.nodup_append.mp hfresh).1
    obtain ⟨next, hnext⟩ := htells.spells hread hfit hspells hfirst
      (fun path hpath => hconfig path (List.mem_append_left _ hpath))
      fun path hpath => hinput path (List.mem_append_left _ hpath)
    rw [← List.append_assoc]
    exact ih hnext hfresh (fun path hpath => hconfig path (List.mem_append_right _ hpath))
      fun path hpath => hinput path (List.mem_append_right _ hpath)

end Reading

/-! ## What is read in the end -/

variable {line : CommandLine} {catalog : Catalog}

theorem flag_mem_items {name : String} :
    .flag name ∈ line.items ↔
      name ∈ line.selected ∨ (line.metrics = true ∧ name = "metrics") ∨
        (line.verbose = true ∧ name = "verbose") := by
  obtain ⟨input, config, metrics, verbose, selected⟩ := line
  cases metrics <;> cases verbose <;> simp [items]

theorem config_mem_items {path : String} : .config path ∈ line.items ↔ line.config = some path := by
  obtain ⟨input, config, metrics, verbose, selected⟩ := line
  cases metrics <;> cases verbose <;> simp [items]

theorem input_mem_items {path : OsText} : .input path ∈ line.items ↔ line.input = some path := by
  obtain ⟨input, config, metrics, verbose, selected⟩ := line
  cases metrics <;> cases verbose <;> simp [items]

/-- The names of the arguments of the program. -/
theorem names_command : (command catalog).arguments.map (·.name) =
    ["input", "config", "metrics", "verbose"] ++ catalog.descriptors.map (·.arg) := by
  simp [CommandLine.command, Argument.input, Argument.config, Argument.metrics, Argument.verbose,
    Argument.ofPass, Function.comp_def]

/-- A command line says nothing twice. -/
theorem nodup_items (hselected : line.selected.Sublist (catalog.descriptors.map (·.arg)))
    (hdistinct : ((command catalog).arguments.map (·.name)).Nodup) :
    (line.items.map Item.name).Nodup := by
  rw [names_command] at hdistinct
  have hnames := hdistinct.sublist ((List.Sublist.refl _).append hselected)
  obtain ⟨-, hpasses, hother⟩ := List.nodup_append.mp hnames
  -- No pass has the argument of something else.
  have hnever : ∀ arg ∈ line.selected,
      arg ≠ "input" ∧ arg ≠ "config" ∧ arg ≠ "metrics" ∧ arg ≠ "verbose" := fun arg harg =>
    ⟨(hother _ (by simp) arg harg).symm, (hother _ (by simp) arg harg).symm,
      (hother _ (by simp) arg harg).symm, (hother _ (by simp) arg harg).symm⟩
  obtain ⟨input, config, metrics, verbose, selected⟩ := line
  cases metrics <;> cases verbose <;> cases config <;> cases input <;>
    simp [items, Item.name, Function.comp_def, List.nodup_append, hpasses] <;>
    exact fun arg harg => by simp [hnever arg harg]

/-- A part of a list is found again by its members. -/
theorem filter_mem_of_sublist {part whole : List String} (hpart : part.Sublist whole)
    (hnodup : whole.Nodup) : whole.filter (fun arg => decide (arg ∈ part)) = part := by
  induction hpart with
  | slnil => rfl
  | @cons part whole arg hpart ih =>
    obtain ⟨hnew, hnodup⟩ := List.nodup_cons.mp hnodup
    have hnever : arg ∉ part := fun hmem => hnew (hpart.subset hmem)
    rw [List.filter_cons_of_neg (by simpa using hnever), ih hnodup]
  | @cons_cons part whole arg hpart ih =>
    obtain ⟨hnew, hnodup⟩ := List.nodup_cons.mp hnodup
    have hsame : whole.filter (fun other => decide (other ∈ arg :: part)) =
        whole.filter fun other => decide (other ∈ part) := by
      refine List.filter_congr fun other hother => ?_
      have hdifferent : other ≠ arg := fun heq => hnew (heq ▸ hother)
      simp [hdifferent]
    rw [List.filter_cons_of_pos (by simp), hsame, ih hnodup]

/-- What a command line says is put together again from what was found. -/
theorem ofMatches_eq {found : Matches} {done : List Item}
    (hselected : line.selected.Sublist (catalog.descriptors.map (·.arg)))
    (hdistinct : ((command catalog).arguments.map (·.name)).Nodup) (htold : found.Says done)
    (hitems : done.Perm line.items) : ofMatches catalog found = line := by
  have hflag : ∀ name, found.flag name = true ↔ name ∈ line.selected ∨
      (line.metrics = true ∧ name = "metrics") ∨ (line.verbose = true ∧ name = "verbose") := by
    intro name
    rw [htold.flag, hitems.mem_iff, flag_mem_items]
  rw [names_command] at hdistinct
  obtain ⟨-, hargs, hother⟩ := List.nodup_append.mp hdistinct
  -- No pass has the argument of something else, so every flag is one or the other.
  have hnever : ∀ name ∈ ["input", "config", "metrics", "verbose"], name ∉ line.selected :=
    fun name hname hmem => hother name hname name (hselected.subset hmem) rfl
  have hinput : found.path "input" = line.input := Option.ext fun path => by
    rw [htold.input, hitems.mem_iff, input_mem_items]
  have hconfig : found.text "config" = line.config := Option.ext fun path => by
    rw [htold.config, hitems.mem_iff, config_mem_items]
  have hmetrics : found.flag "metrics" = line.metrics := by
    rw [Bool.eq_iff_iff, hflag]
    simp [hnever "metrics" (by simp)]
  have hverbose : found.flag "verbose" = line.verbose := by
    rw [Bool.eq_iff_iff, hflag]
    simp [hnever "verbose" (by simp)]
  -- The flags are asked for in the order of registration, as those selected are listed.
  have hpasses : (catalog.descriptors.map (·.arg)).filter found.flag = line.selected := by
    refine (List.filter_congr fun arg harg => ?_).trans (filter_mem_of_sublist hselected hargs)
    have hown : arg ≠ "metrics" ∧ arg ≠ "verbose" :=
      ⟨(hother "metrics" (by simp) arg harg).symm, (hother "verbose" (by simp) arg harg).symm⟩
    rw [Bool.eq_iff_iff, hflag]
    simp [hown]
  rw [ofMatches, hinput, hconfig, hmetrics, hverbose, hpasses]

/-- However a command line is written, it is read as what it says. -/
theorem parse_writes {ε : Type} {read : Reader ε} (hread : read.Conventional)
    (hfit : (command catalog).Fit)
    (hselected : line.selected.Sublist (catalog.descriptors.map (·.arg)))
    (hconfig : line.config ≠ some "")
    (hinput : ∀ path, line.input = some path → path.isEmpty = false)
    {items : List Item} (hitems : items.Perm line.items) {words : List OsText}
    (hwrites : Writes (command catalog) items words) :
    parse read catalog words = .ok line := by
  have hdistinct := (List.nodup_cons.mp hfit.sound.names).2
  have hfresh : (([] ++ items).map Item.name).Nodup :=
    (hitems.map Item.name).nodup_iff.mpr (nodup_items hselected hdistinct)
  obtain ⟨found, hfound, htold⟩ := (tells_nil hread hfit).writes hread hfit hwrites hfresh
    (fun path hpath hempty => hconfig (by
      rw [← hempty]
      exact config_mem_items.mp (hitems.mem_iff.mp hpath)))
    fun path hpath => hinput path (input_mem_items.mp (hitems.mem_iff.mp hpath))
  rw [parse, ← List.nil_append words, hfound]
  exact congrArg Except.ok (ofMatches_eq hselected hdistinct htold hitems)

end PassPipeline.CommandLine
