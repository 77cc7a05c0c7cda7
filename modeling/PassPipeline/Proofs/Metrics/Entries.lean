import Mathlib.Algebra.BigOperators.Group.Finset.Basic
import Mathlib.Data.Set.Card
import PassPipeline.Metrics

/-!
# Entries in the counters

All that ever happens to the counters of a manager is that something is recorded: a schedule,
a skipped slot, a completed slot or a failed one.  So the counters are the outcome of a list
of entries (`post`), and each counter tells the number of its entries in that list (`Tells`):
exactly while this number fits 64 bits, and modulo `2 ^ 64` after that.  Entries about single
passes are made only where the settings ask for them; the others always are.
-/

namespace PassPipeline.Metrics

/-! ## Counters of 64 bits -/

/-- What a counter of 64 bits tells of a count: what is left of it modulo `2 ^ 64`, and the
count itself as long as it is smaller than that. -/
structure Tells (counter : UInt64) (count : ℕ) : Prop where
  modulo : counter = UInt64.ofNat count
  exact : count < 2 ^ 64 → counter.toNat = count

theorem tells_iff {counter : UInt64} {count : ℕ} :
    Tells counter count ↔ counter = UInt64.ofNat count := by
  refine ⟨Tells.modulo, fun hcounter => ⟨hcounter, fun hcount => ?_⟩⟩
  rw [hcounter, UInt64.toNat_ofNat', Nat.mod_eq_of_lt hcount]

theorem tells_ofNat (count : ℕ) : Tells (UInt64.ofNat count) count := tells_iff.mpr rfl

theorem tells_zero : Tells 0 0 := tells_ofNat 0

theorem Tells.toNat_le {counter : UInt64} {count : ℕ} (htells : Tells counter count) :
    counter.toNat ≤ count := by
  rw [htells.modulo, UInt64.toNat_ofNat']
  exact Nat.mod_le ..

theorem Tells.add {counter : UInt64} {count : ℕ} (htells : Tells counter count) (more : ℕ) :
    Tells (counter + UInt64.ofNat more) (count + more) := by
  rw [htells.modulo, ← UInt64.ofNat_add]
  exact tells_ofNat (count + more)

/-- What a counter that starts at `counter` comes to. -/
theorem toNat_add_ofNat {counter : UInt64} {more : ℕ} (hroom : counter.toNat + more < 2 ^ 64) :
    (counter + UInt64.ofNat more).toNat = counter.toNat + more := by
  have htells : Tells counter counter.toNat := tells_iff.mpr UInt64.ofNat_toNat.symm
  exact (htells.add more).exact hroom

/-! ## Sums of counts -/

/-- The sum of the counts of all names. -/
def total (counts : NameMap UInt64) : ℕ :=
  (counts.keys.map fun name => (counts.getD name 0).toNat).sum

/-- Names without a count add nothing to the sum. -/
theorem total_eq_sum {counts : NameMap UInt64} {names : Finset String}
    (hnames : ∀ name ∈ counts, name ∈ names) :
    total counts = ∑ name ∈ names, (counts.getD name 0).toNat := by
  have hdistinct : counts.keys.Nodup :=
    counts.distinct_keys.imp fun hne heq => hne (by simp [heq])
  have hsum : total counts = ∑ name ∈ counts.keys.toFinset, (counts.getD name 0).toNat :=
    (List.sum_toFinset _ hdistinct).symm
  rw [hsum]
  refine Finset.sum_subset ?_ ?_
  · intro name hname
    exact hnames name (Std.ExtTreeMap.mem_keys.mp (List.mem_toFinset.mp hname))
  · intro name _ hname
    have hout : name ∉ counts := by simpa using hname
    rw [Std.ExtTreeMap.getD_eq_fallback hout]
    rfl

/-- The sum changes by what the count of the name changes by, which is not one if this count
overflows. -/
theorem total_increment (counts : NameMap UInt64) (name : String) :
    total (increment counts name) + (counts.getD name 0).toNat =
      total counts + (counts.getD name 0 + 1).toNat := by
  let names := insert name counts.keys.toFinset
  have hname : name ∈ names := Finset.mem_insert_self ..
  have hbefore : ∀ other ∈ counts, other ∈ names := by
    intro other hother
    simp [names, hother]
  have hafter : ∀ other ∈ increment counts name, other ∈ names := by
    intro other hother
    rw [increment, Std.ExtTreeMap.mem_insert] at hother
    rcases hother with hsame | hother
    · simp [names, Std.LawfulEqCmp.eq_of_compare hsame]
    · exact hbefore other hother
  have hothers : ∑ other ∈ names.erase name, ((increment counts name).getD other 0).toNat =
      ∑ other ∈ names.erase name, (counts.getD other 0).toNat := by
    refine Finset.sum_congr rfl fun other hother => ?_
    rw [getD_increment, if_neg (Finset.ne_of_mem_erase hother).symm]
  have hown : (increment counts name).getD name 0 = counts.getD name 0 + 1 := by
    rw [getD_increment, if_pos rfl]
  rw [total_eq_sum hafter, total_eq_sum hbefore, ← Finset.add_sum_erase names _ hname,
    ← Finset.add_sum_erase names _ hname, hothers, hown]
  omega

theorem total_increment_modulo (counts : NameMap UInt64) (name : String) :
    UInt64.ofNat (total (increment counts name)) = UInt64.ofNat (total counts) + 1 := by
  have hsum := congrArg UInt64.ofNat (total_increment counts name)
  simp only [UInt64.ofNat_add, UInt64.ofNat_toNat] at hsum
  grind

theorem total_increment_exact {counts : NameMap UInt64} {name : String}
    (hroom : (counts.getD name 0).toNat + 1 < 2 ^ 64) :
    total (increment counts name) = total counts + 1 := by
  have hsum := total_increment counts name
  have hown : (counts.getD name 0 + 1).toNat = (counts.getD name 0).toNat + 1 :=
    toNat_add_ofNat hroom
  omega

/-! ## Entries -/

/-- What can be recorded. -/
inductive Posting where
  | schedule (length : Nat)
  | skip
  | execution (name : String) (duration : Duration) (finished : Instant)
  | failure (name : String)

namespace Posting

/-- Is the entry made whatever the settings are? -/
def isGeneral : Posting → Bool
  | .schedule _ | .skip => true
  | .execution _ _ _ | .failure _ => false

def isSchedule : Posting → Bool
  | .schedule _ => true
  | _ => false

def isSkip : Posting → Bool
  | .skip => true
  | _ => false

def isExecution : Posting → Bool
  | .execution _ _ _ => true
  | _ => false

def isFailure : Posting → Bool
  | .failure _ => true
  | _ => false

/-- Does the entry record a completed slot of that name? -/
def executes (name : String) : Posting → Bool
  | .execution other _ _ => other == name
  | _ => false

/-- Does the entry record a failed slot of that name? -/
def fails (name : String) : Posting → Bool
  | .failure other => other == name
  | _ => false

end Posting

/-- Makes an entry. -/
def enter (metrics : Metrics) : Posting → Metrics
  | .schedule length => metrics.recordSchedule length
  | .skip => metrics.recordSkip
  | .execution name duration finished => metrics.recordExecution name duration finished
  | .failure name => metrics.recordFailure name

/-- Makes entries one after the other, those about single passes only when recording. -/
def post (metrics : Metrics) (recording : Bool) (entries : List Posting) : Metrics :=
  entries.foldl
    (fun metrics entry =>
      if recording || entry.isGeneral then metrics.enter entry else metrics)
    metrics

theorem post_append (metrics : Metrics) (recording : Bool) (first second : List Posting) :
    metrics.post recording (first ++ second) =
      (metrics.post recording first).post recording second :=
  List.foldl_append

theorem post_cons (metrics : Metrics) (recording : Bool) (entry : Posting) (rest : List Posting) :
    metrics.post recording (entry :: rest) =
      (if recording || entry.isGeneral then metrics.enter entry else metrics).post recording
        rest :=
  rfl

/-- A counter that every entry raises by one or leaves alone counts entries. -/
theorem count_post (counter : Metrics → UInt64) {counted : Posting → Bool} {recording : Bool}
    (hstep : ∀ metrics entry,
      counter (if recording || entry.isGeneral then metrics.enter entry else metrics) =
        counter metrics + if counted entry then 1 else 0)
    (metrics : Metrics) (entries : List Posting) :
    counter (metrics.post recording entries) =
      counter metrics + UInt64.ofNat (entries.countP counted) := by
  induction entries generalizing metrics with
  | nil => exact (UInt64.add_zero _).symm
  | cons entry rest ih =>
      rw [post_cons, ih, hstep, List.countP_cons, UInt64.ofNat_add]
      cases counted entry
      · simp
      · simp only [if_true, UInt64.ofNat_one]
        grind

/-- What none of the entries changes stays as it is. -/
theorem stays_post {α : Type} (part : Metrics → α) {entries : List Posting}
    (hstep : ∀ entry ∈ entries, ∀ metrics : Metrics, part (metrics.enter entry) = part metrics)
    (metrics : Metrics) (recording : Bool) :
    part (metrics.post recording entries) = part metrics := by
  induction entries generalizing metrics with
  | nil => rfl
  | cons entry rest ih =>
      obtain ⟨hentry, hrest⟩ := List.forall_mem_cons.mp hstep
      rw [post_cons, ih hrest]
      split
      · exact hentry metrics
      · rfl

variable (metrics : Metrics) (recording : Bool) (entries : List Posting)

theorem runs_post :
    (metrics.post recording entries).runs =
      metrics.runs + UInt64.ofNat (entries.countP Posting.isSchedule) := by
  refine count_post Metrics.runs (fun metrics entry => ?_) metrics entries
  cases entry <;> cases recording <;> simp [enter, recordSchedule, recordSkip, recordExecution,
    recordFailure, Posting.isGeneral, Posting.isSchedule]

theorem lastScheduleLength_post {entries : List Posting}
    (hentries : ∀ entry ∈ entries, entry.isSchedule = false) :
    (metrics.post recording entries).lastScheduleLength = metrics.lastScheduleLength := by
  refine stays_post lastScheduleLength (fun entry hentry metrics => ?_) metrics recording
  have hother := hentries entry hentry
  cases entry with
  | schedule length => cases hother
  | _ => rfl

theorem skipped_post :
    (metrics.post recording entries).skipped =
      metrics.skipped + UInt64.ofNat (entries.countP Posting.isSkip) := by
  refine count_post Metrics.skipped (fun metrics entry => ?_) metrics entries
  cases entry <;> cases recording <;> simp [enter, recordSchedule, recordSkip, recordExecution,
    recordFailure, Posting.isGeneral, Posting.isSkip]

theorem failed_post_eq {entries : List Posting}
    (hentries : ∀ entry ∈ entries, entry.isFailure = false) :
    (metrics.post recording entries).failed = metrics.failed := by
  refine stays_post failed (fun entry hentry metrics => ?_) metrics recording
  have hother := hentries entry hentry
  cases entry with
  | failure name => cases hother
  | _ => rfl

theorem unrecorded_post :
    (metrics.post false entries).executed = metrics.executed ∧
      (metrics.post false entries).failed = metrics.failed := by
  induction entries generalizing metrics with
  | nil => exact ⟨rfl, rfl⟩
  | cons entry rest ih =>
      rw [post_cons]
      cases entry <;> exact ih _

/-! ## Tables of counts -/

/-- A table of counts: some entries are counted, each under a name of its own, and the others
leave the table alone. -/
structure IsTable (table : Metrics → NameMap UInt64) (counted : Posting → Bool)
    (named : String → Posting → Bool) : Prop where
  step : ∀ metrics entry,
    (counted entry = false ∧ (∀ name, named name entry = false) ∧
      table (metrics.enter entry) = table metrics) ∨
    (counted entry = true ∧ ∃ own, (∀ name, named name entry = (own == name)) ∧
      table (metrics.enter entry) = increment (table metrics) own)

theorem isTable_executed : IsTable executed Posting.isExecution Posting.executes where
  step _ entry := by
    cases entry with
    | execution own duration finished => exact Or.inr ⟨rfl, own, fun _ => rfl, rfl⟩
    | _ => exact Or.inl ⟨rfl, fun _ => rfl, rfl⟩

theorem isTable_failed : IsTable failed Posting.isFailure Posting.fails where
  step _ entry := by
    cases entry with
    | failure own => exact Or.inr ⟨rfl, own, fun _ => rfl, rfl⟩
    | _ => exact Or.inl ⟨rfl, fun _ => rfl, rfl⟩

namespace IsTable

variable {table : Metrics → NameMap UInt64} {counted : Posting → Bool}
  {named : String → Posting → Bool} (htable : IsTable table counted named)

include htable

theorem getD_post (metrics : Metrics) (entries : List Posting) (name : String) :
    (table (metrics.post true entries)).getD name 0 =
      (table metrics).getD name 0 + UInt64.ofNat (entries.countP (named name)) := by
  refine count_post (fun metrics => (table metrics).getD name 0)
    (fun metrics entry => ?_) metrics entries
  show (table (metrics.enter entry)).getD name 0 = _
  rcases htable.step metrics entry with ⟨-, hnamed, hsame⟩ | ⟨-, own, hnamed, hraised⟩
  · rw [hsame, hnamed]
    simp
  · rw [hraised, hnamed, getD_increment]
    by_cases hname : own = name <;> simp [hname]

/-- The sum of the counts is the number of the entries, as far as 64 bits tell. -/
theorem total_post_modulo (metrics : Metrics) (entries : List Posting) :
    UInt64.ofNat (total (table (metrics.post true entries))) =
      UInt64.ofNat (total (table metrics) + entries.countP counted) := by
  rw [UInt64.ofNat_add]
  refine count_post (fun metrics => UInt64.ofNat (total (table metrics)))
    (fun metrics entry => ?_) metrics entries
  show UInt64.ofNat (total (table (metrics.enter entry))) = _
  rcases htable.step metrics entry with ⟨hcounted, -, hsame⟩ | ⟨hcounted, own, -, hraised⟩
  · rw [hsame, hcounted]
    simp
  · rw [hraised, hcounted]
    exact total_increment_modulo _ own

/-- By induction on the entries: the first takes from the room of its own name only. -/
theorem total_post (metrics : Metrics) {entries : List Posting}
    (hroom : ∀ name,
      ((table metrics).getD name 0).toNat + entries.countP (named name) < 2 ^ 64) :
    total (table (metrics.post true entries)) =
      total (table metrics) + entries.countP counted := by
  induction entries generalizing metrics with
  | nil => rfl
  | cons entry rest ih =>
      rw [post_cons]
      show total (table ((metrics.enter entry).post true rest)) = _
      simp only [List.countP_cons] at hroom ⊢
      rcases htable.step metrics entry with ⟨hcounted, hnamed, hsame⟩ |
        ⟨hcounted, own, hnamed, hraised⟩
      · rw [ih, hsame, hcounted]
        · simp
        · intro name
          have hname := hroom name
          rw [hsame]
          omega
      · have hown : ((table metrics).getD own 0).toNat + 1 < 2 ^ 64 := by
          have hname := hroom own
          rw [hnamed, if_pos (beq_self_eq_true own)] at hname
          omega
        rw [ih, hraised, hcounted, total_increment_exact hown]
        · simp only [if_true]
          omega
        · intro name
          have hname := hroom name
          rw [hraised, getD_increment]
          by_cases hsame : own = name
          · subst hsame
            rw [hnamed, if_pos (beq_self_eq_true own)] at hname
            have hnext : ((table metrics).getD own 0 + 1).toNat =
                ((table metrics).getD own 0).toNat + 1 := toNat_add_ofNat hown
            rw [if_pos rfl, hnext]
            omega
          · rw [if_neg hsame]
            omega

end IsTable

end PassPipeline.Metrics
