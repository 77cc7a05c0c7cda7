import PassPipeline.Configuration
import PassPipeline.Proofs.Settings.Documents
import PassPipeline.Proofs.Settings.Variables
import PassPipeline.Proofs.Text.Numerals

/-!
# Where the settings of a manager come from

A configuration that has a table for the manager takes each setting from that table, or from what
is built in, and the environment has no say in it.  Without an entry for the manager the settings
are those of the environment, which are read from two of its variables (`settings_layered`).  This
is so whatever library reads the document, as long as it finds the fields of a record in a table.

What such a library makes of an entry that is no table is left open.  The one at hand takes an
array for the settings in order, and then the environment has no say either (`settings_array`).
-/

namespace PassPipeline

variable {environment : Environment} {path : OsText} {entry : Entry}
variable {settings : Settings} {configuration : Configuration} {library : Deserializer}

/-! ## What the settings are taken from -/

/-- The settings are read from variables, of which it is known which texts they have.  The limit is
the number in its variable, if that is a numeral that fits a word, and else what is built in. -/
structure Settings.ReadFrom (has : String → String → Prop) (settings : Settings) : Prop where
  limit : ∀ n, settings.scheduleLimit = n ↔
    (∃ value, has "LIBPASS_SCHEDULE_LIMIT" value ∧ Text.Numeral value n ∧ n < 2 ^ 64) ∨
      (n = 100000 ∧
        ∀ value m, has "LIBPASS_SCHEDULE_LIMIT" value → Text.Numeral value m → 2 ^ 64 ≤ m)
  decimal : ∀ n < 2 ^ 64, has "LIBPASS_SCHEDULE_LIMIT" (toString n) → settings.scheduleLimit = n
  record : settings.recordMetrics = false ↔
    ∃ value ∈ ["0", "false", "no"], has "LIBPASS_RECORD_METRICS" value

/-- The settings are those of two items, of which each may be absent. -/
structure Settings.TakenFrom (library : Deserializer) (limit record : Option library.Item)
    (settings : Settings) : Prop where
  limit : (∃ item, limit = some item ∧ library.integer? item = some settings.scheduleLimit) ∨
    (limit = none ∧ settings.scheduleLimit = 100000)
  record : (∃ item, record = some item ∧ library.boolean? item = some settings.recordMetrics) ∨
    (record = none ∧ settings.recordMetrics = true)

/-! ## The environment -/

/-- An empty value is no value, and would not be read as one either. -/
theorem Environment.nonempty?_bind {α : Type} {name : String} {read : String → Option α}
    (hempty : read "" = none) :
    (environment.nonempty? name).bind read = (environment.get? name).bind read := by
  rw [nonempty?]
  cases environment.get? name with
  | none => rfl
  | some value =>
    by_cases hvalue : value = ""
    · subst hvalue
      exact hempty.symm
    · rw [Option.filter_some_pos (by simpa using hvalue), Option.bind_some]

theorem Settings.scheduleLimit_ofEnvironment :
    (ofEnvironment environment).scheduleLimit =
      ((environment.get? limitVariable).bind fun value => Text.word? value.toList).getD 100000 :=
  congrArg (Option.getD · 100000) (Environment.nonempty?_bind rfl)

theorem Settings.recordMetrics_ofEnvironment :
    (ofEnvironment environment).recordMetrics =
      ((environment.get? recordVariable).bind truth?).getD true :=
  congrArg (Option.getD · true) (Environment.nonempty?_bind rfl)

theorem Settings.truth?_eq_false_iff {word : String} :
    truth? word = some false ↔ word ∈ ["0", "false", "no"] := by
  rw [truth?]
  split_ifs with htrue hfalse
  · rcases htrue with rfl | rfl | rfl <;> decide
  · simpa using hfalse
  · simpa using hfalse

theorem Settings.scheduleLimit_of_numeral {value : String} {n : Nat}
    (hvalue : environment.get? limitVariable = some value) (hnumeral : Text.Numeral value n)
    (hsmall : n < 2 ^ 64) : (ofEnvironment environment).scheduleLimit = n := by
  have hword : Text.word? value.toList = some n := Text.word?_eq_some_iff.mpr ⟨hnumeral, hsmall⟩
  rw [scheduleLimit_ofEnvironment, hvalue, Option.bind_some, hword, Option.getD_some]

/-- What is no numeral, or one for too large a number, has no say. -/
theorem Settings.scheduleLimit_of_large
    (hlarge : ∀ value n, environment.get? limitVariable = some value → Text.Numeral value n →
      2 ^ 64 ≤ n) :
    (ofEnvironment environment).scheduleLimit = 100000 := by
  have hunread : ((environment.get? limitVariable).bind fun value => Text.word? value.toList) =
      none := by
    refine Option.bind_eq_none_iff.mpr fun value hvalue => ?_
    refine Option.eq_none_iff_forall_ne_some.mpr fun n hword => ?_
    obtain ⟨hnumeral, hsmall⟩ := Text.word?_eq_some_iff.mp hword
    exact absurd (hlarge value n hvalue hnumeral) (Nat.not_le.mpr hsmall)
  rw [scheduleLimit_ofEnvironment, hunread, Option.getD_none]

theorem Settings.recordMetrics_eq_false_iff :
    (ofEnvironment environment).recordMetrics = false ↔
      ∃ value ∈ ["0", "false", "no"], environment.get? recordVariable = some value := by
  have hfalse : ∀ choice : Option Bool, choice.getD true = false ↔ choice = some false := by
    rintro (- | choice) <;> simp
  rw [recordMetrics_ofEnvironment, hfalse, Option.bind_eq_some_iff]
  simp only [truth?_eq_false_iff]
  exact exists_congr fun value => and_comm

theorem Settings.readFrom_ofEnvironment :
    (ofEnvironment environment).ReadFrom fun name value => environment.get? name = some value where
  limit n := by
    by_cases hnumeral : ∃ value n, environment.get? limitVariable = some value ∧
        Text.Numeral value n ∧ n < 2 ^ 64
    · obtain ⟨value, m, hvalue, hread, hsmall⟩ := hnumeral
      rw [scheduleLimit_of_numeral hvalue hread hsmall]
      constructor
      · rintro rfl
        exact .inl ⟨value, hvalue, hread, hsmall⟩
      · rintro (⟨other, hother, hagain, hfits⟩ | ⟨-, hlarge⟩)
        · rw [← scheduleLimit_of_numeral hvalue hread hsmall,
            scheduleLimit_of_numeral hother hagain hfits]
        · exact absurd (hlarge value m hvalue hread) (Nat.not_le.mpr hsmall)
    · have hlarge : ∀ value m, environment.get? limitVariable = some value →
          Text.Numeral value m → 2 ^ 64 ≤ m := fun value m hvalue hread =>
        Nat.le_of_not_lt fun hsmall => hnumeral ⟨value, m, hvalue, hread, hsmall⟩
      rw [scheduleLimit_of_large hlarge]
      constructor
      · rintro rfl
        exact .inr ⟨rfl, hlarge⟩
      · rintro (⟨value, hvalue, hread, hsmall⟩ | ⟨rfl, -⟩)
        · exact absurd ⟨value, n, hvalue, hread, hsmall⟩ hnumeral
        · rfl
  decimal n hsmall hvalue := scheduleLimit_of_numeral hvalue (Text.numeral_toString n) hsmall
  record := recordMetrics_eq_false_iff

/-! ## The file -/

namespace Fields

variable {Item α β : Type} {entries : String → Option Item} {key : String}
  {decode : Item → Except String β} {absent : β} {rest : β → Fields Item α} {record : α}

/-- A field that is read is absent or decoded. -/
theorem read_field_eq_ok
    (hread : (field key decode absent rest).read entries = .ok record) :
    ∃ value, ((∃ item, entries key = some item ∧ decode item = .ok value) ∨
        (entries key = none ∧ value = absent)) ∧ (rest value).read entries = .ok record := by
  rw [read] at hread
  split at hread
  · next hnone => exact ⟨absent, .inr ⟨hnone, rfl⟩, hread⟩
  · next item hitem =>
    split at hread
    · cases hread
    · next value hvalue => exact ⟨value, .inl ⟨item, hitem, hvalue⟩, hread⟩

theorem read_field_congr {other : β → Fields Item α}
    (hrest : ∀ value, (rest value).read entries = (other value).read entries) :
    (field key decode absent rest).read entries =
      (field key decode absent other).read entries := by
  simp only [read, hrest]

/-- A field that is there does not depend on what it would be if it were not. -/
theorem read_field_of_there {other : β} (hthere : entries key ≠ none) :
    (field key decode absent rest).read entries =
      (field key decode other rest).read entries := by
  rw [read, read]
  split
  · contradiction
  · rfl

end Fields

theorem Settings.taken_of_read (hlibrary : library.Lawful) {entries : String → Option library.Item}
    (hread : (Settings.fields library).read entries = .ok settings) :
    settings.TakenFrom library (entries limitKey) (entries recordKey) := by
  obtain ⟨limit, hlimit, hrest⟩ := Fields.read_field_eq_ok hread
  obtain ⟨record, hrecord, hdone⟩ := Fields.read_field_eq_ok hrest
  cases hdone
  simp only [hlibrary.natural_eq_ok_iff] at hlimit
  simp only [hlibrary.truth_eq_ok_iff] at hrecord
  exact ⟨hlimit, hrecord⟩

namespace Configuration

variable {entries : String → Option library.Item}

/-- Only the settings can depend on the environment, and only if there is no entry for them. -/
theorem read_congr (hthere : entries "manager" ≠ none) (other : Environment) :
    (fields library other).read entries = (fields library environment).read entries :=
  Fields.read_field_congr fun _ => Fields.read_field_congr fun _ =>
    Fields.read_field_of_there hthere

theorem manager_of_read (hread : (fields library environment).read entries = .ok configuration) :
    (∃ item, entries "manager" = some item ∧
        library.record (Settings.fields library) item = .ok configuration.manager) ∨
      (entries "manager" = none ∧ configuration.manager = .ofEnvironment environment) := by
  obtain ⟨defaultPass, -, hrest⟩ := Fields.read_field_eq_ok hread
  obtain ⟨select, -, hrest⟩ := Fields.read_field_eq_ok hrest
  obtain ⟨manager, hmanager, hdone⟩ := Fields.read_field_eq_ok hrest
  cases hdone
  exact hmanager

theorem mapError_eq_ok_iff {α ε ε' : Type} {change : ε → ε'} {outcome : Except ε α} {value : α} :
    outcome.mapError change = .ok value ↔ outcome = .ok value := by
  cases outcome <;> simp [Except.mapError]

theorem readText_text (text : String) : (Entry.file text.toUTF8).readText = .ok text := by
  rw [Entry.readText, Text.fromUTF8?_eq_some_iff.mpr rfl]

/-- What a file says is what its document says, which is a table. -/
theorem load_eq_ok_iff (hlibrary : library.Lawful) (hpresent : entry.isPresent = true) :
    load library environment path entry = .ok configuration ↔
      ∃ text item entries, entry.readText = .ok text ∧ library.document text = .ok item ∧
        library.table? item = some entries ∧
        (fields library environment).read entries = .ok configuration := by
  rw [load, if_pos hpresent]
  rcases entry.readText with reason | text
  · simp
  dsimp only
  rcases hdocument : library.document text with reason | item
  · simp [parse, hdocument, bind, Except.bind, Except.mapError]
  obtain ⟨entries, htable⟩ := Option.isSome_iff_exists.mp (hlibrary.isSome_table? hdocument)
  have hrecord := hlibrary.record_eq_ok_iff htable (fields library environment) configuration
  have hparse : parse library environment text =
      library.record (fields library environment) item := by
    rw [parse, hdocument]
    rfl
  rw [hparse, mapError_eq_ok_iff, hrecord]
  constructor
  · exact fun hread => ⟨text, item, entries, rfl, hdocument, htable, hread⟩
  · rintro ⟨_, _, _, ⟨⟩, hagain, hsame, hread⟩
    obtain rfl := Except.ok.inj (hdocument.symm.trans hagain)
    obtain rfl := Option.some.inj (htable.symm.trans hsame)
    exact hread

/-- The settings come from the table for the manager alone, if the file has one, and from the
environment alone, if the file has no entry for the manager or there is no file. -/
theorem settings_layered (hlibrary : library.Lawful) (environment : Environment) (path : OsText)
    (entry : Entry) :
    (∀ bindings : List (OsText × OsText), (bindings.map Prod.fst).Nodup →
      (∀ binding ∈ bindings, Environment.Listable binding) →
        (Settings.ofEnvironment (.ofBytes (Environment.listing bindings))).ReadFrom
          fun name value => (name.toUTF8, value.toUTF8) ∈ bindings) ∧
    (Settings.ofEnvironment environment).ReadFrom
      (fun name value => environment.get? name = some value) ∧
    (entry.isPresent = false →
      load library environment path entry = .ok { manager := .ofEnvironment environment }) ∧
    ∀ configuration, entry.isPresent = true →
      load library environment path entry = .ok configuration →
      ∃ text item entries, entry.readText = .ok text ∧ library.document text = .ok item ∧
        library.table? item = some entries ∧
        (entries "manager" = none → configuration.manager = .ofEnvironment environment) ∧
        ∀ manager table, entries "manager" = some manager → library.table? manager = some table →
          configuration.manager.TakenFrom library (table "schedule_limit")
            (table "record_metrics") ∧
          ∀ other, load library other path entry = .ok configuration := by
  refine ⟨?_, Settings.readFrom_ofEnvironment, ?_, ?_⟩
  · intro bindings hdistinct hlistable
    have hread := @Settings.readFrom_ofEnvironment (.ofBytes (Environment.listing bindings))
    simpa only [Environment.get?_listed hdistinct hlistable] using hread
  · intro habsent
    rw [load, if_neg (by simp [habsent])]
    rfl
  · intro configuration hpresent hload
    obtain ⟨text, item, entries, htext, hdocument, htable, hread⟩ :=
      (load_eq_ok_iff hlibrary hpresent).mp hload
    refine ⟨text, item, entries, htext, hdocument, htable, fun hnone => ?_, ?_⟩
    · obtain ⟨item, hitem, -⟩ | ⟨-, hmanager⟩ := manager_of_read hread
      · cases hnone.symm.trans hitem
      · exact hmanager
    · -- A table for the manager gives or defaults every setting, so no variable is read.
      intro manager table hitem hinner
      have hthere : entries "manager" ≠ none := by simp [hitem]
      obtain ⟨found, hfound, hrecord⟩ | ⟨hnone, -⟩ := manager_of_read hread
      · obtain rfl := Option.some.inj (hitem.symm.trans hfound)
        refine ⟨Settings.taken_of_read hlibrary ?_, fun other => ?_⟩
        · exact (hlibrary.record_eq_ok_iff hinner _ _).mp hrecord
        · exact (load_eq_ok_iff hlibrary hpresent).mpr ⟨text, item, entries, htext, hdocument,
            htable, (read_congr hthere other).trans hread⟩
      · exact absurd hnone hthere

/-- A process that has a limit among its variables. -/
def limited : List (OsText × OsText) := [("LIBPASS_SCHEDULE_LIMIT".toUTF8, "+007".toUTF8)]

/-- Leaves the limit out. -/
def partialTable : String := "[manager]\nrecord_metrics = false\n"

/-- The path of a configuration. -/
def ownPath : OsText := "config.toml".toUTF8

theorem settings_layered_partial :
    (Settings.ofEnvironment (.ofBytes (Environment.listing limited))).scheduleLimit = 7 ∧
    load Toml.deserializer (.ofBytes (Environment.listing limited)) ownPath .missing =
      .ok { manager := .ofEnvironment (.ofBytes (Environment.listing limited)) } ∧
    ∀ other, load Toml.deserializer other ownPath (.file partialTable.toUTF8) =
      .ok { manager := { scheduleLimit := 100000, recordMetrics := false } } := by
  obtain ⟨hlisted, -, habsent, -⟩ := settings_layered Toml.lawful_deserializer
    (.ofBytes (Environment.listing limited)) ownPath .missing
  obtain ⟨-, -, -, hpresent⟩ := settings_layered Toml.lawful_deserializer {} ownPath
    (.file partialTable.toUTF8)
  refine ⟨?_, habsent rfl, ?_⟩
  · have hnumeral : Text.Numeral "+007" 7 :=
      ⟨['0', '0', '7'], by decide, List.all_eq_true.mp rfl, rfl, Or.inr rfl⟩
    refine ((hlisted limited (by simp [limited]) ?_).limit 7).mpr
      (.inl ⟨"+007", by simp [limited], hnumeral, by decide⟩)
    intro binding hbinding
    obtain rfl := List.mem_singleton.mp hbinding
    exact ⟨by decide +kernel, by decide +kernel⟩
  · obtain ⟨text, item, entries, htext, hdocument, htable, -, hmanager⟩ :=
      hpresent { manager := { recordMetrics := false } } rfl (by decide +kernel)
    obtain rfl := Except.ok.inj ((readText_text partialTable).symm.trans htext)
    obtain ⟨rows, hparse, rfl⟩ := Toml.document_eq_ok_iff.mp hdocument
    obtain rfl := Option.some.inj htable
    have hsome : ((Toml.parse partialTable).bind fun rows =>
        (rows.lookup "manager").bind Toml.Item.table?).isSome = true := by decide +kernel
    rw [hparse, Option.bind_some] at hsome
    obtain ⟨table, hinner⟩ := Option.isSome_iff_exists.mp hsome
    obtain ⟨manager, hlookup, hinner⟩ := Option.bind_eq_some_iff.mp hinner
    exact (hmanager manager table hlookup hinner).2

/-- Has an entry for the manager that is no table. -/
def emptyArray : String := "manager = []\n"

/-- An array has the say in both settings, though it is no table. -/
theorem settings_array :
    ¬ ∀ (environment : Environment) (path : OsText) (entry : Entry) (text : String)
        (item : Toml.deserializer.Item) (entries : String → Option Toml.deserializer.Item)
        (configuration : Configuration),
      entry.readText = .ok text → Toml.deserializer.document text = .ok item →
      Toml.deserializer.table? item = some entries →
      load Toml.deserializer environment path entry = .ok configuration →
      (∀ manager table, entries "manager" = some manager →
        Toml.deserializer.table? manager ≠ some table) →
        configuration.manager = .ofEnvironment environment := by
  intro hclaim
  -- A table lists no texts.
  have hshape : (Toml.parse emptyArray).map (fun rows =>
      (rows.lookup "manager").bind Toml.Item.texts?) = some (some []) := by decide +kernel
  obtain ⟨rows, hparse, htexts⟩ := Option.map_eq_some_iff.mp hshape
  have hmanager := hclaim (.ofTexts [("LIBPASS_SCHEDULE_LIMIT", "5")]) ownPath
    (.file emptyArray.toUTF8) emptyArray (.table .heading rows) (fun key => rows.lookup key) {}
    (readText_text emptyArray) (Toml.document_eq_ok_iff.mpr ⟨rows, hparse, rfl⟩) rfl
    (by decide +kernel) ?_
  · revert hmanager
    decide +kernel
  · intro manager table hlookup htable
    obtain ⟨found, hfound, htexts⟩ := Option.bind_eq_some_iff.mp htexts
    obtain rfl := Option.some.inj (hfound.symm.trans hlookup)
    cases found with
    | table _ _ => cases htexts
    | _ => cases htable

end Configuration

end PassPipeline
