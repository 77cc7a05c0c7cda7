import PassPipeline.Proofs.Metrics.Entries

/-!
# What is kept under a name

A completed slot changes three tables: the count of its name, the mean of the durations under
this name and the end of the latest slot.  The count is looked up once it has been raised, and
the mean is moved by a quotient with this count.  The lookup cannot fail, whatever has been
recorded before, and the division cannot either as long as no count overflows
(`foldlM_enter?`).

The statistics are looked at row by row, where the row of a name is all that is kept under it.
An entry changes the row of its own name only, and this by what is in the row alone
(`row_enter`).  So the rows are filled independently of each other, whatever the order in which
the names turn up (`row_foldl`), and an induction on the entries of a single name tells what is
in its row (`Row.foldl_enter`).  That the three tables list the same names is read off there.
-/

namespace PassPipeline.Metrics

/-! ## Entries that could fail -/

/-- The mean, if there is a count to divide by. -/
def runningMean? (previous latest : Duration) (count : UInt64) : Option Duration :=
  if count = 0 then none else some (runningMean previous latest count)

/-- Records a successful slot, if its name has a count by then and the mean can be divided by
it. -/
def recordExecution? (metrics : Metrics) (name : String) (duration : Duration)
    (finished : Instant) : Option Metrics := do
  let executed := increment metrics.executed name
  let count ← executed[name]?
  let average ← runningMean? (metrics.averages.getD name 0) duration count
  return { metrics with
    executed
    lastRun := metrics.lastRun.insert name finished
    averages := metrics.averages.insert name average }

/-- Makes an entry, if nothing that it looks up is missing. -/
def enter? (metrics : Metrics) : Posting → Option Metrics
  | .execution name duration finished => metrics.recordExecution? name duration finished
  | entry => some (metrics.enter entry)

theorem getElem?_increment (counts : NameMap UInt64) (name other : String) :
    (increment counts name)[other]? =
      if name = other then some (counts.getD name 0 + 1) else counts[other]? := by
  rw [increment, Std.ExtTreeMap.getElem?_insert]
  simp only [Std.LawfulEqCmp.compare_eq_iff_eq]

/-- The lookup finds the count that has just been raised, so that a slot can be recorded unless
this count has just overflowed. -/
theorem recordExecution?_eq {metrics : Metrics} {name : String}
    (hcount : metrics.executed.getD name 0 + 1 ≠ 0) (duration : Duration) (finished : Instant) :
    metrics.recordExecution? name duration finished =
      some (metrics.recordExecution name duration finished) := by
  have hlookup : (increment metrics.executed name)[name]? =
      some (metrics.executed.getD name 0 + 1) := by
    rw [getElem?_increment, if_pos rfl]
  have hraised : (increment metrics.executed name).getD name 0 =
      metrics.executed.getD name 0 + 1 := by
    rw [getD_increment, if_pos rfl]
  simp [recordExecution?, recordExecution, runningMean?, hlookup, hraised, hcount]

/-- A count does not overflow as long as there is room for the entries of its name. -/
theorem enter?_eq {metrics : Metrics} {entry : Posting} {rest : List Posting}
    (hroom : ∀ name, (metrics.executed.getD name 0).toNat +
      (entry :: rest).countP (Posting.executes name) < 2 ^ 64) :
    metrics.enter? entry = some (metrics.enter entry) := by
  cases entry with
  | execution name duration finished =>
      have hname := hroom name
      rw [List.countP_cons, if_pos (by simp [Posting.executes])] at hname
      have hraised : (metrics.executed.getD name 0 + 1).toNat =
          (metrics.executed.getD name 0).toNat + 1 := @toNat_add_ofNat _ 1 (by omega)
      refine recordExecution?_eq (fun hzero => ?_) duration finished
      rw [hzero] at hraised
      exact absurd hraised (by simp)
  | _ => rfl

/-- Entries can be made in any order, and in any number for which the counts have room. -/
theorem foldlM_enter? {metrics : Metrics} {entries : List Posting}
    (hroom : ∀ name, (metrics.executed.getD name 0).toNat +
      entries.countP (Posting.executes name) < 2 ^ 64) :
    entries.foldlM enter? metrics = some (entries.foldl enter metrics) := by
  induction entries generalizing metrics with
  | nil => rfl
  | cons entry rest ih =>
      rw [List.foldlM_cons, enter?_eq hroom, List.foldl_cons]
      refine ih fun name => ?_
      have hname := hroom name
      have hfirst := isTable_executed.getD_post metrics [entry] name
      change (metrics.enter entry).executed.getD name 0 = _ at hfirst
      rw [List.countP_cons] at hname
      rw [hfirst, toNat_add_ofNat]
      · simp only [List.countP_cons, List.countP_nil]
        omega
      · simp only [List.countP_cons, List.countP_nil]
        omega

/-! ## Rows -/

/-- Is the entry about a slot of that name? -/
def Posting.concerns (name : String) (entry : Posting) : Bool :=
  entry.executes name || entry.fails name

theorem Posting.executes_eq (name : String) :
    Posting.executes name = fun entry => entry.isExecution && entry.concerns name := by
  funext entry
  cases entry <;> simp [concerns, executes, fails, isExecution]

theorem Posting.fails_eq (name : String) :
    Posting.fails name = fun entry => entry.isFailure && entry.concerns name := by
  funext entry
  cases entry <;> simp [concerns, executes, fails, isFailure]

/-- What is kept under one name. -/
structure Row where
  executed : Option UInt64 := none
  failed : Option UInt64 := none
  average : Option Duration := none
  lastRun : Option Instant := none

/-- The row of a name. -/
def row (metrics : Metrics) (name : String) : Row where
  executed := metrics.executed[name]?
  failed := metrics.failed[name]?
  average := metrics.averages[name]?
  lastRun := metrics.lastRun[name]?

/-- The row after an entry that is about its name. -/
def Row.enter (row : Row) : Posting → Row
  | .schedule _ | .skip => row
  | .execution _ duration finished =>
      let count := row.executed.getD 0 + 1
      { row with
        executed := some count
        average := some (runningMean (row.average.getD 0) duration count)
        lastRun := some finished }
  | .failure _ => { row with failed := some (row.failed.getD 0 + 1) }

theorem row_enter (metrics : Metrics) (entry : Posting) (name : String) :
    (metrics.enter entry).row name =
      if entry.concerns name then (metrics.row name).enter entry else metrics.row name := by
  cases entry with
  | schedule length => rfl
  | skip => rfl
  -- A table that gets a new value under another name has the old one under this name.
  | execution other duration finished =>
      by_cases hname : other = name
      · subst hname
        simp [enter, recordExecution, row, Row.enter, Posting.concerns, Posting.executes,
          getElem?_increment, Std.ExtTreeMap.getD_eq_getD_getElem?]
      · simp [enter, recordExecution, row, Posting.concerns, Posting.executes, Posting.fails,
          getElem?_increment, Std.ExtTreeMap.getElem?_insert, hname]
  | failure other =>
      by_cases hname : other = name
      · subst hname
        simp [enter, recordFailure, row, Row.enter, Posting.concerns, Posting.fails,
          getElem?_increment, Std.ExtTreeMap.getD_eq_getD_getElem?]
      · simp [enter, recordFailure, row, Posting.concerns, Posting.executes, Posting.fails,
          getElem?_increment, hname]

/-- The row of a name is filled by the entries about this name alone. -/
theorem row_foldl (metrics : Metrics) (entries : List Posting) (name : String) :
    (entries.foldl enter metrics).row name =
      (entries.filter (Posting.concerns name)).foldl Row.enter (metrics.row name) := by
  induction entries generalizing metrics with
  | nil => rfl
  | cons entry rest ih =>
      rw [List.foldl_cons, ih, row_enter, List.filter_cons]
      split <;> rfl

/-! ## The entries of a single name -/

/-- The duration and the end of a completed slot. -/
def Posting.completion? : Posting → Option (Duration × Instant)
  | .execution _ duration finished => some (duration, finished)
  | _ => none

/-- The completed slots, in order. -/
def completions (entries : List Posting) : List (Duration × Instant) :=
  entries.filterMap Posting.completion?

/-- What a table of counts keeps: nothing of a name that has never been counted. -/
def counted (count : ℕ) : Option UInt64 :=
  if count = 0 then none else some (UInt64.ofNat count)

/-- The mean that is kept of durations, the latest of them first. -/
def meanOf : List Duration → Option Duration
  | [] => none
  | latest :: earlier =>
      some (runningMean ((meanOf earlier).getD 0) latest (UInt64.ofNat (earlier.length + 1)))

@[simp] theorem counted_succ (count : ℕ) :
    counted (count + 1) = some (UInt64.ofNat count + 1) := by
  rw [counted, if_neg (Nat.succ_ne_zero count), UInt64.ofNat_add]
  rfl

@[simp] theorem getD_counted (count : ℕ) : (counted count).getD 0 = UInt64.ofNat count := by
  cases count <;> rfl

theorem isSome_counted (count : ℕ) : (counted count).isSome ↔ 0 < count := by
  cases count <;> simp [counted]

theorem isSome_meanOf (durations : List Duration) : (meanOf durations).isSome ↔ durations ≠ [] := by
  cases durations <;> simp [meanOf]

theorem length_completions (entries : List Posting) :
    (completions entries).length = entries.countP Posting.isExecution := by
  rw [completions, List.length_filterMap_eq_countP]
  refine List.countP_congr fun entry _ => ?_
  cases entry <;> simp [Posting.completion?, Posting.isExecution]

namespace Row

/-- The row that entries about its name come to. -/
def ofPostings (entries : List Posting) : Row where
  executed := counted (entries.countP Posting.isExecution)
  failed := counted (entries.countP Posting.isFailure)
  average := meanOf ((completions entries).map Prod.fst).reverse
  lastRun := (completions entries).getLast?.map Prod.snd

theorem ofPostings_snoc (entries : List Posting) (entry : Posting) :
    ofPostings (entries ++ [entry]) = (ofPostings entries).enter entry := by
  have hcompletions : completions (entries ++ [entry]) =
      completions entries ++ entry.completion?.toList := by
    rw [completions, List.filterMap_append]
    cases entry <;> rfl
  rw [ofPostings, hcompletions, List.countP_append, List.countP_append, List.map_append,
    List.reverse_append]
  cases entry with
  | execution name duration finished =>
      simp [ofPostings, enter, Posting.isExecution, Posting.isFailure, Posting.completion?, meanOf,
        length_completions]
  | schedule _ | skip | failure _ =>
      simp [ofPostings, enter, Posting.isExecution, Posting.isFailure, Posting.completion?]

/-- By induction on the latest entry, since a mean is moved by the latest duration. -/
theorem foldl_enter (entries : List Posting) : entries.foldl enter {} = ofPostings entries := by
  induction entries using List.reverseRecOn with
  | nil => rfl
  | append_singleton earlier entry ih =>
      rw [List.foldl_append, ih, ofPostings_snoc]
      rfl

theorem isSome_average (entries : List Posting) :
    (ofPostings entries).average.isSome ↔ (ofPostings entries).executed.isSome := by
  rw [ofPostings, isSome_meanOf, isSome_counted, ← length_completions, List.length_pos_iff]
  simp

theorem isSome_lastRun (entries : List Posting) :
    (ofPostings entries).lastRun.isSome ↔ (ofPostings entries).executed.isSome := by
  rw [ofPostings, isSome_counted, ← length_completions, List.length_pos_iff]
  simp

end Row

/-! ## Statistics from the start -/

/-- The statistics when these entries have been made, and no others. -/
def ofPostings (entries : List Posting) : Metrics := entries.foldl enter {}

/-- A manager makes the entries that its settings ask for, and no others. -/
theorem post_eq_foldl (metrics : Metrics) (recording : Bool) (entries : List Posting) :
    metrics.post recording entries =
      (entries.filter fun entry => recording || entry.isGeneral).foldl enter metrics := by
  rw [List.foldl_filter]
  rfl

theorem row_ofPostings (entries : List Posting) (name : String) :
    (ofPostings entries).row name =
      Row.ofPostings (entries.filter (Posting.concerns name)) := by
  have hempty : row {} name = {} := by simp [row]
  rw [ofPostings, row_foldl, hempty, Row.foldl_enter]

section Names

variable (entries : List Posting) (name : String)

theorem executed_ofPostings :
    (ofPostings entries).executed[name]? = counted (entries.countP (Posting.executes name)) := by
  have hrow := congrArg Row.executed (row_ofPostings entries name)
  rwa [Row.ofPostings, List.countP_filter, ← Posting.executes_eq] at hrow

theorem failed_ofPostings :
    (ofPostings entries).failed[name]? = counted (entries.countP (Posting.fails name)) := by
  have hrow := congrArg Row.failed (row_ofPostings entries name)
  rwa [Row.ofPostings, List.countP_filter, List.countP_filter, ← Posting.fails_eq] at hrow

theorem getD_executed :
    (ofPostings entries).executed.getD name 0 =
      UInt64.ofNat (entries.countP (Posting.executes name)) := by
  rw [Std.ExtTreeMap.getD_eq_getD_getElem?, executed_ofPostings, getD_counted]

theorem getD_failed :
    (ofPostings entries).failed.getD name 0 =
      UInt64.ofNat (entries.countP (Posting.fails name)) := by
  rw [Std.ExtTreeMap.getD_eq_getD_getElem?, failed_ofPostings, getD_counted]

theorem mem_executed_iff :
    name ∈ (ofPostings entries).executed ↔ ∃ entry ∈ entries, entry.executes name := by
  rw [Std.ExtTreeMap.mem_iff_isSome_getElem?, executed_ofPostings, isSome_counted,
    List.countP_pos_iff]

theorem mem_failed_iff :
    name ∈ (ofPostings entries).failed ↔ ∃ entry ∈ entries, entry.fails name := by
  rw [Std.ExtTreeMap.mem_iff_isSome_getElem?, failed_ofPostings, isSome_counted,
    List.countP_pos_iff]

theorem mem_averages_iff :
    name ∈ (ofPostings entries).averages ↔ name ∈ (ofPostings entries).executed := by
  have hrow := Row.isSome_average (entries.filter (Posting.concerns name))
  rw [← row_ofPostings] at hrow
  rw [Std.ExtTreeMap.mem_iff_isSome_getElem?, Std.ExtTreeMap.mem_iff_isSome_getElem?]
  exact hrow

theorem mem_lastRun_iff :
    name ∈ (ofPostings entries).lastRun ↔ name ∈ (ofPostings entries).executed := by
  have hrow := Row.isSome_lastRun (entries.filter (Posting.concerns name))
  rw [← row_ofPostings] at hrow
  rw [Std.ExtTreeMap.mem_iff_isSome_getElem?, Std.ExtTreeMap.mem_iff_isSome_getElem?]
  exact hrow

/-- The mean of a name with one completed slot is the duration of this slot. -/
theorem averages_of_single {duration : Duration} {finished : Instant}
    (hentry : .execution name duration finished ∈ entries)
    (hsingle : entries.countP (Posting.executes name) = 1) :
    (ofPostings entries).averages[name]? = some duration := by
  -- The row is made by the entries about the name, of which one alone is of a completed slot.
  let about := entries.filter (Posting.concerns name)
  have hmem : (duration, finished) ∈ completions about := by
    have hconcerns : Posting.concerns name (.execution name duration finished) := by
      simp [Posting.concerns, Posting.executes]
    exact List.mem_filterMap.mpr ⟨_, List.mem_filter.mpr ⟨hentry, hconcerns⟩, rfl⟩
  have hlength : (completions about).length = 1 := by
    rw [length_completions, List.countP_filter, ← Posting.executes_eq, hsingle]
  obtain ⟨only, honly⟩ := List.length_eq_one_iff.mp hlength
  rw [honly, List.mem_singleton] at hmem
  have hrow := congrArg Row.average (row_ofPostings entries name)
  rw [Row.ofPostings, honly, ← hmem] at hrow
  exact hrow

/-- Entries about other names leave a row as it is. -/
theorem row_append {more : List Posting} (hmore : ∀ entry ∈ more, entry.concerns name = false) :
    (ofPostings (entries ++ more)).row name = (ofPostings entries).row name := by
  have hnone : more.filter (Posting.concerns name) = [] :=
    List.filter_eq_nil_iff.mpr fun entry hentry => by simp [hmore entry hentry]
  rw [row_ofPostings, row_ofPostings, List.filter_append, hnone, List.append_nil]

end Names

/-- The statistics tell which entries have been made about which names. -/
structure Consistent (metrics : Metrics) (entries : List Posting) : Prop where
  mem_executed : ∀ name, name ∈ metrics.executed ↔ ∃ entry ∈ entries, entry.executes name
  mem_averages : ∀ name, name ∈ metrics.averages ↔ ∃ entry ∈ entries, entry.executes name
  mem_lastRun : ∀ name, name ∈ metrics.lastRun ↔ ∃ entry ∈ entries, entry.executes name
  mem_failed : ∀ name, name ∈ metrics.failed ↔ ∃ entry ∈ entries, entry.fails name
  /-- A count is the number of the entries, modulo `2 ^ 64` and exactly below. -/
  executed_eq : ∀ name (hname : name ∈ metrics.executed),
    Tells metrics.executed[name] (entries.countP (Posting.executes name))
  failed_eq : ∀ name (hname : name ∈ metrics.failed),
    Tells metrics.failed[name] (entries.countP (Posting.fails name))
  /-- A further completed slot finds the count that it has just raised, and this count is not
  zero before there have been `2 ^ 64` completed slots of the name. -/
  lookup : ∀ name, ∃ count, (increment metrics.executed name)[name]? = some count ∧
    Tells count (entries.countP (Posting.executes name) + 1) ∧
    (entries.countP (Posting.executes name) + 1 < 2 ^ 64 → count ≠ 0)
  /-- The mean of a name with one completed slot is the duration of this slot. -/
  single : ∀ name duration finished, .execution name duration finished ∈ entries →
    entries.countP (Posting.executes name) = 1 → metrics.averages[name]? = some duration

theorem consistent_ofPostings (entries : List Posting) : (ofPostings entries).Consistent entries where
  mem_executed := mem_executed_iff entries
  mem_averages name := (mem_averages_iff entries name).trans (mem_executed_iff entries name)
  mem_lastRun name := (mem_lastRun_iff entries name).trans (mem_executed_iff entries name)
  mem_failed := mem_failed_iff entries
  executed_eq name hname := by
    have hcount := getD_executed entries name
    rw [Std.ExtTreeMap.getD_eq_getD_getElem?, getElem?_pos _ _ hname] at hcount
    exact tells_iff.mpr hcount
  failed_eq name hname := by
    have hcount := getD_failed entries name
    rw [Std.ExtTreeMap.getD_eq_getD_getElem?, getElem?_pos _ _ hname] at hcount
    exact tells_iff.mpr hcount
  lookup name := by
    have htells := tells_ofNat (entries.countP (Posting.executes name) + 1)
    refine ⟨_, ?_, htells, fun hroom hzero => ?_⟩
    · rw [getElem?_increment, if_pos rfl, getD_executed, UInt64.ofNat_add]
      rfl
    · have hexact := htells.exact hroom
      rw [hzero] at hexact
      exact absurd hexact (by simp)
  single name _ _ := averages_of_single entries name

/-- Whatever is recorded from the start on, the three tables of completed slots list the same
names, the counts tell the numbers of entries, a name with one completed slot has its duration for
a mean, and entries about other names leave all that is kept under a name as it is.  No completed
slot fails to find a count, and none divides by zero as long as every name has fewer than `2 ^ 64`
of them. -/
theorem statistics_consistent (entries : List Posting) :
    (ofPostings entries).Consistent entries ∧
    ((∀ name, entries.countP (Posting.executes name) < 2 ^ 64) →
      entries.foldlM enter? {} = some (ofPostings entries)) ∧
    ∀ name more, (∀ entry ∈ more, entry.concerns name = false) →
      (ofPostings (entries ++ more)).row name = (ofPostings entries).row name := by
  refine ⟨consistent_ofPostings entries, fun hroom => foldlM_enter? fun name => ?_,
    fun name _ hmore => row_append entries name hmore⟩
  simpa using hroom name

/-- `Lex` is completed twice, `Parse` fails once and is completed once. -/
def lexing : List Posting :=
  [.schedule 2, .execution "Lex" 100 1, .failure "Parse",
    .schedule 2, .execution "Lex" 250 2, .execution "Parse" 40 3]

/-- `Lex` is skipped, completed and fails. -/
def relexing : List Posting :=
  [.schedule 1, .skip, .schedule 1, .execution "Lex" 300 4, .schedule 1, .failure "Lex"]

theorem statistics_consistent_lexing :
    lexing.countP (Posting.executes "Parse") = 1 ∧
    (∀ entry ∈ relexing, entry.concerns "Parse" = false) ∧
    (ofPostings lexing).averages["Parse"]? = some 40 ∧
    ("Lex" ∈ (ofPostings lexing).lastRun ∧ "Lex" ∉ (ofPostings lexing).failed) ∧
    (∀ name, lexing.countP (Posting.executes name) < 2 ^ 64) ∧
    lexing.foldlM enter? {} = some (ofPostings lexing) ∧
    (ofPostings (lexing ++ relexing)).row "Parse" = (ofPostings lexing).row "Parse" := by
  obtain ⟨hconsistent, henter, hrows⟩ := statistics_consistent lexing
  have hsingle : lexing.countP (Posting.executes "Parse") = 1 := by decide
  have hmore : ∀ entry ∈ relexing, entry.concerns "Parse" = false := by decide
  have hentry : .execution "Parse" 40 3 ∈ lexing := by simp [lexing]
  have hroom : ∀ name, lexing.countP (Posting.executes name) < 2 ^ 64 := fun name =>
    lt_of_le_of_lt List.countP_le_length (by decide)
  refine ⟨hsingle, hmore, hconsistent.single _ _ _ hentry hsingle, ⟨?_, ?_⟩, hroom, henter hroom,
    hrows _ _ hmore⟩
  · rw [hconsistent.mem_lastRun]
    decide
  · rw [hconsistent.mem_failed]
    decide

end PassPipeline.Metrics
