import Mathlib.Algebra.Order.BigOperators.Group.List
import PassPipeline.Proofs.History.Indexes
import PassPipeline.Proofs.History.Restatement
import PassPipeline.Proofs.Metrics.Rows
import PassPipeline.Proofs.Run.Accounts

/-!
# The counters over whole histories

Whatever has been done to a manager since its creation, its counters agree with the runs that
it has made (`counters_balanced`).  A counter of slots tells the number of the slots that came to
this end, under this name, in all those runs together; a run counts once a schedule is built.
Since a counter has 64 bits, this is exact as long as the number is below `2 ^ 64`.

The counters of one run are read off its entries (`execute_accounts`): every slot before the
last one has an entry of its own, so that no slot is counted twice and none is left out.  The
history adds up the runs, since no other operation touches the counters or the schedule.

So the statistics of a manager are those of some list of entries (`Past.exists_entries`), and its
tables of completed slots list the same names at any time (`Past.mem_executed_iff`).
-/

namespace PassPipeline

open Metrics (Posting Tells total)

/-! ## Single runs -/

/-- A run that a manager is asked for. -/
structure Turn where
  site : Site
  timing : Timing

namespace Turn

/-- The run executes the schedule. -/
def Executes (turn : Turn) (schedule : List PassId) : Prop :=
  ∃ ready, turn.site.Executes turn.timing ready schedule

/-- The run executes a schedule and finds `found` at the slot. -/
def Meets (turn : Turn) (slot : Nat) (id : PassId) (found : Site) : Prop :=
  ∃ ready schedule, turn.site.Executes turn.timing ready schedule ∧ schedule[slot]? = some id ∧
    Site.Arrives turn.timing schedule (ready.commit turn.timing schedule) slot found

/-- The slot is completed by a pass of that name. -/
def Completes (turn : Turn) (name : String) (slot : Nat) : Prop :=
  ∃ id found pass, turn.Meets slot id found ∧ found.Completes turn.timing slot id pass ∧
    pass.name = name

/-- The run is aborted at a slot of that name. -/
def Aborts (turn : Turn) (name : String) : Prop :=
  ∃ slot id found pass, turn.Meets slot id found ∧ found.Fails turn.timing slot id pass ∧
    pass.name = name

/-- The leading slot is skipped. -/
def Skips (turn : Turn) : Prop :=
  ∃ id found, turn.Meets 0 id found ∧ found.Skips turn.timing 0 id

/-- The result of the run. -/
def result (turn : Turn) : Except Halt Bool := (turn.site.run turn.timing).1

/-- The manager after the run. -/
def after (turn : Turn) : Manager := (turn.site.run turn.timing).2.manager

/-- The counters before the run. -/
def metrics (turn : Turn) : Metrics := turn.site.manager.metrics

/-- What an execution that a run makes records. -/
structure Account (turn : Turn) (schedule : List PassId) (start here : Site) (last : Nat)
    (entries closing : List Posting) : Prop where
  meets_iff : ∀ slot id found, turn.Meets slot id found ↔
    schedule[slot]? = some id ∧ Site.Arrives turn.timing schedule start slot found
  arrives : Site.Arrives turn.timing schedule start last here
  journal : Site.Journal turn.timing schedule start last entries
  closes : here.Closes turn.timing schedule last turn.result closing
  metrics_eq : turn.after.metrics = turn.metrics.post turn.site.manager.settings.recordMetrics
    (.schedule schedule.length :: entries ++ closing)

theorem meets_iff {turn : Turn} {ready : Site} {schedule : List PassId}
    (hexecutes : turn.site.Executes turn.timing ready schedule) (slot : Nat) (id : PassId)
    (found : Site) :
    turn.Meets slot id found ↔ schedule[slot]? = some id ∧
      Site.Arrives turn.timing schedule (ready.commit turn.timing schedule) slot found := by
  constructor
  · rintro ⟨other, planned, hother, hid, hfound⟩
    obtain rfl : other = ready := hother.isReady.unique hexecutes.isReady
    cases hother.planned.symm.trans hexecutes.planned
    exact ⟨hid, hfound⟩
  · rintro ⟨hid, hfound⟩
    exact ⟨ready, schedule, hexecutes, hid, hfound⟩

/-- A run that is aborted at a slot is aborted at no other. -/
theorem aborts_iff {turn : Turn} {slot : Nat} {id : PassId} {found : Site} {pass : Descriptor}
    (hmeets : turn.Meets slot id found) (hfails : found.Fails turn.timing slot id pass)
    (name : String) : turn.Aborts name ↔ pass.name = name := by
  obtain ⟨ready, schedule, hexecutes, hid, hfound⟩ := hmeets
  constructor
  · rintro ⟨last, other, here, again, hagain, hfailsAgain, rfl⟩
    obtain ⟨hother, hhere⟩ := (meets_iff hexecutes last other here).mp hagain
    obtain ⟨rfl, rfl⟩ := hhere.eq_of_stuck hfound (hfailsAgain.stuck hother) (hfails.stuck hid)
    cases hother.symm.trans hid
    cases hfailsAgain.resolved.symm.trans hfails.resolved
    rfl
  · rintro rfl
    exact ⟨slot, id, found, pass, ⟨ready, schedule, hexecutes, hid, hfound⟩, hfails, rfl⟩

theorem Executes.account {turn : Turn} {schedule : List PassId}
    (hexecutes : turn.Executes schedule) :
    ∃ start here last entries closing,
      turn.Account schedule start here last entries closing := by
  obtain ⟨ready, hexecutes⟩ := hexecutes
  obtain ⟨last, here, entries, closing, harrives, hjournal, hcloses, hmetrics⟩ :=
    ready.execute_accounts turn.timing schedule
  obtain ⟨chosen, trace, hframe⟩ := hexecutes.isReady.frame
  refine ⟨_, here, last, entries, closing, meets_iff hexecutes, harrives, hjournal, ?_, ?_⟩
  · rw [result, hexecutes.run_eq]
    exact hcloses
  · rw [after, hexecutes.run_eq, hmetrics, Site.posted, hframe]
    rfl

namespace Account

variable {turn : Turn} {schedule : List PassId} {start here : Site} {last : Nat}
  {entries closing : List Posting}

/-- A slot has its entry if the run goes on from it. -/
theorem exists_entry (haccount : turn.Account schedule start here last entries closing)
    {slot : Nat} {id : PassId} {found : Site} (hmeets : turn.Meets slot id found)
    (hgoesOn : found.GoesOn turn.timing slot id) :
    ∃ entry, entries[slot]? = some entry ∧ found.Records turn.timing slot id entry := by
  obtain ⟨hid, hfound⟩ := (haccount.meets_iff slot id found).mp hmeets
  -- The next slot is reached as well, so this one stands before the last.
  have hnext : Site.Arrives turn.timing schedule start (slot + 1)
      (found.executeSlot turn.timing slot id).2 :=
    Site.arrives_succ_iff.mpr ⟨id, found, hid, hfound, hgoesOn, rfl⟩
  have hlast : slot < last := hnext.le_of_stuck haccount.arrives haccount.closes.stuck
  obtain ⟨other, reached, entry, hother, hreached, hrecords, hentry⟩ :=
    haccount.journal.entry_eq slot hlast
  obtain rfl : reached = found := hreached.unique hfound
  cases hother.symm.trans hid
  exact ⟨entry, hentry, hrecords⟩

/-- The completed slots of a name are as many as their entries. -/
theorem ncard_completed (haccount : turn.Account schedule start here last entries closing)
    (name : String) :
    {slot | turn.Completes name slot}.ncard = entries.countP (Posting.executes name) := by
  rw [← ncard_places entries (Posting.executes name)]
  congr 1
  ext slot
  constructor
  · rintro ⟨id, found, pass, hmeets, hcompletes, rfl⟩
    obtain ⟨entry, hentry, hrecords⟩ :=
      haccount.exists_entry hmeets (Or.inr hcompletes.outcome)
    obtain rfl := hrecords.eq_of_completes hcompletes
    exact ⟨_, hentry, by simp [Posting.executes]⟩
  · rintro ⟨entry, hentry, hexecutes⟩
    obtain ⟨id, found, hid, hfound, hrecords⟩ := haccount.journal.records hentry
    have hmeets := (haccount.meets_iff slot id found).mpr ⟨hid, hfound⟩
    cases hrecords with
    | skipped _ => cases hexecutes
    | completed hcompletes => exact ⟨id, found, _, hmeets, hcompletes,
        by simpa [Posting.executes] using hexecutes⟩

theorem skips_iff (haccount : turn.Account schedule start here last entries closing) :
    turn.Skips ↔ ∃ rest, entries = .skip :: rest := by
  constructor
  · rintro ⟨id, found, hmeets, hskips⟩
    obtain ⟨entry, hentry, hrecords⟩ := haccount.exists_entry hmeets (Or.inl hskips.outcome)
    obtain rfl := hrecords.eq_of_skips hskips
    cases entries with
    | nil => cases hentry
    | cons first rest =>
        cases hentry
        exact ⟨rest, rfl⟩
  · rintro ⟨rest, rfl⟩
    have hfirst : (Posting.skip :: rest)[0]? = some .skip := List.getElem?_cons_zero
    obtain ⟨id, found, hid, hfound, hrecords⟩ := haccount.journal.records hfirst
    cases hrecords with
    | skipped hskips =>
        exact ⟨id, found, (haccount.meets_iff 0 id found).mpr ⟨hid, hfound⟩, hskips⟩

/-- Only the leading slot has an entry of a skip. -/
theorem isSkip_tail (haccount : turn.Account schedule start here last entries closing) :
    entries.tail.countP Posting.isSkip = 0 := by
  rw [List.countP_eq_zero]
  intro entry hentry
  obtain ⟨place, hplace⟩ := List.mem_iff_getElem?.mp hentry
  rw [List.getElem?_tail] at hplace
  obtain ⟨id, found, -, -, hrecords⟩ := haccount.journal.records hplace
  cases hrecords with
  | skipped hskips => exact absurd hskips.satisfied.1 (Nat.succ_ne_zero place)
  | completed _ => nofun

open Classical in
theorem countP_skip (haccount : turn.Account schedule start here last entries closing) :
    entries.countP Posting.isSkip = if turn.Skips then 1 else 0 := by
  have htail := haccount.isSkip_tail
  simp only [haccount.skips_iff]
  cases entries with
  | nil => simp
  | cons first rest =>
      rw [List.tail_cons] at htail
      rw [List.countP_cons, htail]
      cases first <;> simp [Posting.isSkip]

/-- A run is aborted at its last slot only, since it is stuck there. -/
theorem aborts_iff_last (haccount : turn.Account schedule start here last entries closing)
    (name : String) :
    turn.Aborts name ↔ ∃ id pass, schedule[last]? = some id ∧
      here.Fails turn.timing last id pass ∧ pass.name = name := by
  constructor
  · rintro ⟨slot, id, found, pass, hmeets, hfails, hname⟩
    obtain ⟨hid, hfound⟩ := (haccount.meets_iff slot id found).mp hmeets
    obtain ⟨rfl, rfl⟩ :=
      hfound.eq_of_stuck haccount.arrives (hfails.stuck hid) haccount.closes.stuck
    exact ⟨id, pass, hid, hfails, hname⟩
  · rintro ⟨id, pass, hid, hfails, hname⟩
    exact ⟨last, id, here, pass, (haccount.meets_iff ..).mpr ⟨hid, haccount.arrives⟩, hfails,
      hname⟩

open Classical in
theorem countP_failed (haccount : turn.Account schedule start here last entries closing)
    (name : String) :
    closing.countP (Posting.fails name) = if turn.Aborts name then 1 else 0 := by
  rw [if_congr (haccount.aborts_iff_last name) rfl rfl]
  have hcloses := haccount.closes
  -- A turn aborts in its last slot or not at all, so the cases are how it closes there.
  generalize turn.result = result at hcloses
  cases hcloses with
  | finished hlast =>
      have hout : schedule[last]? = none := List.getElem?_eq_none (Nat.le_of_eq hlast.symm)
      simp [hout]
  | @failed id pass hid hfails =>
      by_cases hname : pass.name = name
      · rw [if_pos ⟨id, pass, hid, hfails, hname⟩]
        simp [Posting.fails, hname]
      · rw [if_neg]
        · simp [Posting.fails, hname]
        · rintro ⟨other, found, hother, hagain, hsame⟩
          cases hother.symm.trans hid
          cases hagain.resolved.symm.trans hfails.resolved
          exact hname hsame
  | @halted id halt hid hhalts =>
      rw [if_neg]
      · rfl
      · rintro ⟨other, found, hother, hfails, -⟩
        cases hother.symm.trans hid
        cases hhalts.symm.trans hfails.outcome

theorem countP_slots (haccount : turn.Account schedule start here last entries closing) :
    entries.countP Posting.isExecution + entries.countP Posting.isSkip = last := by
  rw [← haccount.journal.length_eq, List.length_eq_countP_add_countP Posting.isExecution]
  congr 1
  refine List.countP_congr fun entry hentry => ?_
  rcases haccount.journal.entry_cases hentry with rfl | ⟨name, duration, finished, rfl⟩
  · simp [Posting.isSkip, Posting.isExecution]
  · simp [Posting.isSkip, Posting.isExecution]

/-- The end of an execution is no completed, skipped or planned slot. -/
theorem closing_cases (haccount : turn.Account schedule start here last entries closing) :
    (turn.result = .ok true ∧ last = schedule.length ∧ closing = []) ∨
    (turn.result = .ok false ∧ last < schedule.length ∧ ∃ name, closing = [.failure name]) ∨
    ((∃ halt, turn.result = .error halt) ∧ closing = []) := by
  have hcloses := haccount.closes
  generalize turn.result = result at hcloses
  cases hcloses with
  | finished hlast => exact Or.inl ⟨rfl, hlast, rfl⟩
  | failed hid _ =>
      exact Or.inr (Or.inl ⟨rfl, (List.getElem?_eq_some_iff.mp hid).1, _, rfl⟩)
  | halted _ _ => exact Or.inr (Or.inr ⟨⟨_, rfl⟩, rfl⟩)

theorem countP_closing (haccount : turn.Account schedule start here last entries closing)
    (condition : Posting → Bool) (hcondition : ∀ name, condition (.failure name) = false) :
    closing.countP condition = 0 := by
  rcases haccount.closing_cases with ⟨-, -, rfl⟩ | ⟨-, -, name, rfl⟩ | ⟨-, rfl⟩
  · rfl
  · simp [hcondition]
  · rfl

end Account

/-! ## What a run adds -/

variable (turn : Turn)

theorem stopped (hidle : ∀ schedule, ¬ turn.Executes schedule) :
    turn.after.metrics = turn.metrics ∧ turn.after.schedule = turn.site.manager.schedule := by
  have hstops : turn.site.Stops turn.timing := by
    rw [Site.stops_iff]
    intro ready schedule hexecutes
    exact hidle schedule ⟨ready, hexecutes⟩
  obtain ⟨selected, dependencies, stream, trace, hframe⟩ := hstops.frame
  rw [after, hframe]
  exact ⟨rfl, rfl⟩

theorem not_meets (hidle : ∀ schedule, ¬ turn.Executes schedule) (slot : Nat) (id : PassId)
    (found : Site) : ¬ turn.Meets slot id found := by
  rintro ⟨ready, schedule, hexecutes, -⟩
  exact hidle schedule ⟨ready, hexecutes⟩

open Classical in
theorem runs_after :
    turn.after.metrics.runs = turn.metrics.runs +
      UInt64.ofNat (if ∃ schedule, turn.Executes schedule then 1 else 0) := by
  by_cases hruns : ∃ schedule, turn.Executes schedule
  · obtain ⟨schedule, hexecutes⟩ := hruns
    obtain ⟨start, here, last, entries, closing, haccount⟩ := hexecutes.account
    have hentries : entries.countP Posting.isSchedule = 0 :=
      haccount.journal.countP_eq_zero rfl fun _ _ _ => rfl
    have hclosing := haccount.countP_closing Posting.isSchedule fun _ => rfl
    rw [haccount.metrics_eq, Metrics.runs_post, List.countP_append, List.countP_cons, hentries,
      hclosing, if_pos (Exists.intro schedule hexecutes)]
    rfl
  · rw [(turn.stopped (not_exists.mp hruns)).1, if_neg hruns]
    exact (UInt64.add_zero _).symm

open Classical in
theorem skipped_after :
    turn.after.metrics.skipped =
      turn.metrics.skipped + UInt64.ofNat (if turn.Skips then 1 else 0) := by
  by_cases hruns : ∃ schedule, turn.Executes schedule
  · obtain ⟨schedule, hexecutes⟩ := hruns
    obtain ⟨start, here, last, entries, closing, haccount⟩ := hexecutes.account
    have hclosing := haccount.countP_closing Posting.isSkip fun _ => rfl
    rw [haccount.metrics_eq, Metrics.skipped_post, List.countP_append, List.countP_cons,
      haccount.countP_skip, hclosing]
    rfl
  · have hskips : ¬ turn.Skips := by
      rintro ⟨id, found, hmeets, -⟩
      exact turn.not_meets (not_exists.mp hruns) 0 id found hmeets
    rw [(turn.stopped (not_exists.mp hruns)).1, if_neg hskips]
    exact (UInt64.add_zero _).symm

theorem executed_after (hrecording : turn.site.manager.settings.recordMetrics = true)
    (name : String) :
    turn.after.metrics.executed.getD name 0 = turn.metrics.executed.getD name 0 +
      UInt64.ofNat {slot | turn.Completes name slot}.ncard := by
  by_cases hruns : ∃ schedule, turn.Executes schedule
  · obtain ⟨schedule, hexecutes⟩ := hruns
    obtain ⟨start, here, last, entries, closing, haccount⟩ := hexecutes.account
    have hclosing := haccount.countP_closing (Posting.executes name) fun _ => rfl
    rw [haccount.metrics_eq, hrecording, Metrics.isTable_executed.getD_post, List.countP_append,
      List.countP_cons, hclosing, haccount.ncard_completed]
    rfl
  · have hnone : {slot | turn.Completes name slot} = ∅ := by
      refine Set.eq_empty_of_forall_notMem ?_
      rintro slot ⟨id, found, pass, hmeets, -⟩
      exact turn.not_meets (not_exists.mp hruns) slot id found hmeets
    rw [(turn.stopped (not_exists.mp hruns)).1, hnone, Set.ncard_empty]
    exact (UInt64.add_zero _).symm

open Classical in
theorem failed_after (hrecording : turn.site.manager.settings.recordMetrics = true)
    (name : String) :
    turn.after.metrics.failed.getD name 0 =
      turn.metrics.failed.getD name 0 + UInt64.ofNat (if turn.Aborts name then 1 else 0) := by
  by_cases hruns : ∃ schedule, turn.Executes schedule
  · obtain ⟨schedule, hexecutes⟩ := hruns
    obtain ⟨start, here, last, entries, closing, haccount⟩ := hexecutes.account
    have hentries : entries.countP (Posting.fails name) = 0 :=
      haccount.journal.countP_eq_zero rfl fun _ _ _ => rfl
    rw [haccount.metrics_eq, hrecording, Metrics.isTable_failed.getD_post, List.countP_append,
      List.countP_cons, hentries, haccount.countP_failed]
    simp [Posting.fails]
  · have haborts : ¬ turn.Aborts name := by
      rintro ⟨slot, id, found, pass, hmeets, -⟩
      exact turn.not_meets (not_exists.mp hruns) slot id found hmeets
    rw [(turn.stopped (not_exists.mp hruns)).1, if_neg haborts]
    exact (UInt64.add_zero _).symm

theorem unrecorded_after (hrecording : turn.site.manager.settings.recordMetrics = false) :
    turn.after.metrics.executed = turn.metrics.executed ∧
      turn.after.metrics.failed = turn.metrics.failed := by
  by_cases hruns : ∃ schedule, turn.Executes schedule
  · obtain ⟨schedule, hexecutes⟩ := hruns
    obtain ⟨start, here, last, entries, closing, haccount⟩ := hexecutes.account
    rw [haccount.metrics_eq, hrecording]
    exact Metrics.unrecorded_post ..
  · rw [(turn.stopped (not_exists.mp hruns)).1]
    exact ⟨rfl, rfl⟩

theorem lastScheduleLength_after
    (hbefore : turn.metrics.lastScheduleLength = turn.site.manager.schedule.length) :
    turn.after.metrics.lastScheduleLength = turn.after.schedule.length := by
  by_cases hruns : ∃ schedule, turn.Executes schedule
  · obtain ⟨schedule, ready, hexecutes⟩ := hruns
    have hschedule : turn.after.schedule = schedule := hexecutes.schedule_eq
    obtain ⟨start, here, last, entries, closing, haccount⟩ :=
      Executes.account ⟨ready, hexecutes⟩
    have hrest : ∀ entry ∈ entries ++ closing, entry.isSchedule = false := by
      intro entry hentry
      rcases List.mem_append.mp hentry with hentry | hentry
      · rcases haccount.journal.entry_cases hentry with rfl | ⟨name, duration, finished, rfl⟩
        · rfl
        · rfl
      · rcases haccount.closing_cases with ⟨-, -, rfl⟩ | ⟨-, -, name, rfl⟩ | ⟨-, rfl⟩
        · cases hentry
        · cases List.mem_singleton.mp hentry
          rfl
        · cases hentry
    rw [haccount.metrics_eq, hschedule, List.cons_append, Metrics.post_cons,
      Metrics.lastScheduleLength_post _ _ hrest]
    cases turn.site.manager.settings.recordMetrics <;> rfl
  · obtain ⟨hmetrics, hschedule⟩ := turn.stopped (not_exists.mp hruns)
    rw [hmetrics, hschedule, hbefore]

/-- All that a run does to the counters is to make entries. -/
theorem exists_entries :
    ∃ entries : List Posting, turn.after.metrics = entries.foldl Metrics.enter turn.metrics := by
  by_cases hruns : ∃ schedule, turn.Executes schedule
  · obtain ⟨schedule, hexecutes⟩ := hruns
    obtain ⟨start, here, last, entries, closing, haccount⟩ := hexecutes.account
    exact ⟨_, haccount.metrics_eq.trans (Metrics.post_eq_foldl ..)⟩
  · exact ⟨[], (turn.stopped (not_exists.mp hruns)).1⟩

/-- The counters have room for one more slot of every name and of every end for each slot of a
schedule of that length, so that no run of it makes one of them overflow. -/
structure HasRoom (length : ℕ) : Prop where
  executed : ∀ name, (turn.metrics.executed.getD name 0).toNat + length < 2 ^ 64
  failed : ∀ name, (turn.metrics.failed.getD name 0).toNat + 1 < 2 ^ 64
  skipped : turn.metrics.skipped.toNat + 1 < 2 ^ 64

/-- A sum of counters rises by that many: exactly if none of them overflows. -/
structure Raises (length before after more : ℕ) : Prop where
  modulo : UInt64.ofNat after = UInt64.ofNat (before + more)
  exact : turn.HasRoom length → after = before + more

/-- No more slots are completed than the schedule has. -/
theorem ncard_completed_le (name : String) :
    {slot | turn.Completes name slot}.ncard ≤ turn.after.schedule.length := by
  have hslots : {slot | turn.Completes name slot} ⊆ Finset.range turn.after.schedule.length := by
    rintro slot ⟨id, found, pass, ⟨ready, schedule, hexecutes, hid, -⟩, -⟩
    have hschedule : turn.after.schedule = schedule := hexecutes.schedule_eq
    rw [hschedule, Finset.mem_coe, Finset.mem_range]
    exact (List.getElem?_eq_some_iff.mp hid).1
  calc {slot | turn.Completes name slot}.ncard
      ≤ (Finset.range turn.after.schedule.length : Set ℕ).ncard :=
        Set.ncard_le_ncard hslots (Finset.finite_toSet _)
    _ = turn.after.schedule.length := by rw [Set.ncard_coe_finset, Finset.card_range]

/-- What a run adds to the counters of all slots together, if every slot is recorded. -/
structure Conserves : Prop where
  /-- A run that succeeds has completed or skipped all the slots of its schedule. -/
  succeeded : ∀ schedule, turn.Executes schedule → turn.result = .ok true →
    turn.Raises schedule.length
      (total turn.metrics.executed + turn.metrics.skipped.toNat)
      (total turn.after.metrics.executed + turn.after.metrics.skipped.toNat)
      turn.after.schedule.length ∧
    turn.after.metrics.failed = turn.metrics.failed
  /-- A run that fails has one failed slot, which is neither completed nor skipped. -/
  failed : ∀ schedule, turn.Executes schedule → turn.result = .ok false →
    turn.Raises schedule.length (total turn.metrics.failed) (total turn.after.metrics.failed) 1 ∧
    ∃ slots < turn.after.schedule.length, turn.Raises schedule.length
      (total turn.metrics.executed + turn.metrics.skipped.toNat)
      (total turn.after.metrics.executed + turn.after.metrics.skipped.toNat) slots
  /-- A run that executes nothing adds nothing. -/
  stopped : (∀ schedule, ¬ turn.Executes schedule) → turn.after.metrics = turn.metrics

namespace Account

variable {turn : Turn} {schedule : List PassId} {start here : Site} {last : Nat}
  {entries closing : List Posting}

theorem total_executed (haccount : turn.Account schedule start here last entries closing)
    (hrecording : turn.site.manager.settings.recordMetrics = true)
    (hlast : last ≤ schedule.length) :
    turn.Raises schedule.length
      (total turn.metrics.executed + turn.metrics.skipped.toNat)
      (total turn.after.metrics.executed + turn.after.metrics.skipped.toNat) last := by
  let all := Posting.schedule schedule.length :: entries ++ closing
  have hmetrics : turn.after.metrics = turn.metrics.post true all :=
    haccount.metrics_eq.trans (by rw [hrecording])
  have hexecutions : all.countP Posting.isExecution = entries.countP Posting.isExecution := by
    rw [List.countP_append, List.countP_cons,
      haccount.countP_closing Posting.isExecution fun _ => rfl]
    rfl
  have hskips : all.countP Posting.isSkip = entries.countP Posting.isSkip := by
    rw [List.countP_append, List.countP_cons, haccount.countP_closing Posting.isSkip fun _ => rfl]
    rfl
  have hskipped : turn.after.metrics.skipped =
      turn.metrics.skipped + UInt64.ofNat (entries.countP Posting.isSkip) := by
    rw [hmetrics, Metrics.skipped_post, hskips]
  have hslots := haccount.countP_slots
  constructor
  · have htotal : UInt64.ofNat (total turn.after.metrics.executed) =
        UInt64.ofNat (total turn.metrics.executed + entries.countP Posting.isExecution) := by
      rw [hmetrics, Metrics.isTable_executed.total_post_modulo, hexecutions]
    rw [UInt64.ofNat_add, UInt64.ofNat_toNat, htotal, hskipped, ← hslots]
    simp only [UInt64.ofNat_add, UInt64.ofNat_toNat]
    grind
  · intro hroom
    have htotal : total turn.after.metrics.executed =
        total turn.metrics.executed + entries.countP Posting.isExecution := by
      rw [hmetrics, Metrics.isTable_executed.total_post turn.metrics, hexecutions]
      intro name
      have hname := hroom.executed name
      have hcount : all.countP (Posting.executes name) ≤ last := by
        rw [List.countP_append, List.countP_cons,
          haccount.countP_closing (Posting.executes name) fun _ => rfl,
          ← haccount.journal.length_eq]
        exact List.countP_le_length
      omega
    have hfew : entries.countP Posting.isSkip ≤ 1 := by
      classical
      rw [haccount.countP_skip]
      split <;> omega
    have hcount := hroom.skipped
    rw [htotal, hskipped, Metrics.toNat_add_ofNat]
    · omega
    · omega

theorem total_failed (haccount : turn.Account schedule start here last entries closing)
    (hrecording : turn.site.manager.settings.recordMetrics = true) {name : String}
    (hclosing : closing = [.failure name]) :
    turn.Raises schedule.length (total turn.metrics.failed) (total turn.after.metrics.failed)
      1 := by
  let all := Posting.schedule schedule.length :: entries ++ closing
  have hmetrics : turn.after.metrics = turn.metrics.post true all :=
    haccount.metrics_eq.trans (by rw [hrecording])
  have hcount (condition : Posting → Bool)
      (hschedule : condition (.schedule schedule.length) = false)
      (hentries : entries.countP condition = 0) :
      all.countP condition = if condition (.failure name) then 1 else 0 := by
    rw [List.countP_append, List.countP_cons, hentries, hclosing, List.countP_singleton, hschedule]
    simp
  have hfailures : all.countP Posting.isFailure = 1 :=
    hcount Posting.isFailure rfl (haccount.journal.countP_eq_zero rfl fun _ _ _ => rfl)
  constructor
  · rw [hmetrics, Metrics.isTable_failed.total_post_modulo, hfailures]
  · intro hroom
    rw [hmetrics, Metrics.isTable_failed.total_post, hfailures]
    intro other
    have hother := hroom.failed other
    have hfew : all.countP (Posting.fails other) ≤ 1 := by
      rw [hcount (Posting.fails other) rfl
        (haccount.journal.countP_eq_zero rfl fun _ _ _ => rfl)]
      split <;> omega
    omega

theorem failed_eq (haccount : turn.Account schedule start here last entries closing)
    (hclosing : closing = []) : turn.after.metrics.failed = turn.metrics.failed := by
  rw [haccount.metrics_eq, hclosing, List.append_nil]
  refine Metrics.failed_post_eq _ _ fun entry hentry => ?_
  rcases List.mem_cons.mp hentry with rfl | hentry
  · rfl
  · rcases haccount.journal.entry_cases hentry with rfl | ⟨name, duration, finished, rfl⟩
    · rfl
    · rfl

end Account

theorem conserves (hrecording : turn.site.manager.settings.recordMetrics = true) :
    turn.Conserves where
  succeeded schedule hexecutes hresult := by
    obtain ⟨ready, hrun⟩ := hexecutes
    have hschedule : turn.after.schedule = schedule := hrun.schedule_eq
    obtain ⟨start, here, last, entries, closing, haccount⟩ := Executes.account ⟨ready, hrun⟩
    rcases haccount.closing_cases with ⟨-, hlast, hclosing⟩ | ⟨hfailed, -⟩ | ⟨⟨halt, hhalted⟩, -⟩
    · rw [hschedule]
      have htotal := haccount.total_executed hrecording (Nat.le_of_eq hlast)
      exact ⟨hlast ▸ htotal, haccount.failed_eq hclosing⟩
    · exact absurd (hresult.symm.trans hfailed) nofun
    · exact absurd (hresult.symm.trans hhalted) nofun
  failed schedule hexecutes hresult := by
    obtain ⟨ready, hrun⟩ := hexecutes
    have hschedule : turn.after.schedule = schedule := hrun.schedule_eq
    obtain ⟨start, here, last, entries, closing, haccount⟩ := Executes.account ⟨ready, hrun⟩
    rcases haccount.closing_cases with ⟨hok, -⟩ | ⟨-, hlast, name, hclosing⟩ | ⟨⟨halt, hhalted⟩, -⟩
    · exact absurd (hresult.symm.trans hok) nofun
    · rw [hschedule]
      exact ⟨haccount.total_failed hrecording hclosing, last, hlast,
        haccount.total_executed hrecording (Nat.le_of_lt hlast)⟩
    · exact absurd (hresult.symm.trans hhalted) nofun
  stopped hidle := (turn.stopped hidle).1

end Turn

/-! ## Histories -/

namespace Manager

/-- The runs among operations. -/
def Operation.turns (operation : Operation) (site : Site) : List Turn :=
  match operation with
  | .run timing => [⟨site, timing⟩]
  | _ => []

/-- The managers that can come about, with the runs that they have made since their creation.
Between two operations the world may change in any way. -/
inductive Past : Manager → List Turn → Prop
  | created {world after : World} {settings : Settings} {manager : Manager}
      (hcreate : create world settings = .ok (manager, after)) : Past manager []
  | operated {manager : Manager} {past : List Turn} (hpast : Past manager past) (world : World)
      (operation : Operation) :
      Past ((⟨manager, world⟩ : Site).operate operation).manager
        (past ++ operation.turns ⟨manager, world⟩)

open Classical in
/-- The counters agree with the runs. -/
structure Balanced (manager : Manager) (past : List Turn) : Prop where
  lastScheduleLength : manager.metrics.lastScheduleLength = manager.schedule.length
  runs : Tells manager.metrics.runs (past.countP fun turn => ∃ schedule, turn.Executes schedule)
  skipped : Tells manager.metrics.skipped (past.countP fun turn => turn.Skips)
  executed : manager.settings.recordMetrics = true → ∀ name,
    Tells (manager.metrics.executed.getD name 0)
      (past.map fun turn => {slot | turn.Completes name slot}.ncard).sum
  failed : manager.settings.recordMetrics = true → ∀ name,
    Tells (manager.metrics.failed.getD name 0) (past.countP fun turn => turn.Aborts name)
  unrecorded : manager.settings.recordMetrics = false →
    manager.metrics.executed = ∅ ∧ manager.metrics.failed = ∅

theorem balanced_create {world after : World} {settings : Settings} {manager : Manager}
    (hcreate : create world settings = .ok (manager, after)) : manager.Balanced [] := by
  rw [create] at hcreate
  split at hcreate
  · cases hcreate
  · cases hcreate
    have hnone (name : String) : Tells ((∅ : NameMap UInt64).getD name 0) 0 := by
      simpa using Metrics.tells_zero
    exact ⟨rfl, Metrics.tells_zero, Metrics.tells_zero, fun _ name => hnone name,
      fun _ name => hnone name, fun _ => ⟨rfl, rfl⟩⟩

open Classical in
theorem countP_snoc (past : List Turn) (turn : Turn) (condition : Turn → Prop) :
    (past ++ [turn]).countP (fun turn => condition turn) =
      past.countP (fun turn => condition turn) + if condition turn then 1 else 0 := by
  rw [List.countP_append, List.countP_singleton]
  by_cases hturn : condition turn <;> simp [hturn]

theorem Balanced.run {manager : Manager} {past : List Turn} (hbalanced : manager.Balanced past)
    (world : World) (timing : Timing) :
    (⟨⟨manager, world⟩, timing⟩ : Turn).after.Balanced (past ++ [⟨⟨manager, world⟩, timing⟩]) := by
  let turn : Turn := ⟨⟨manager, world⟩, timing⟩
  have hsettings : turn.after.settings = manager.settings := by
    obtain ⟨_, _, _, _, _, hframe⟩ := turn.site.run_frame timing
    rw [Turn.after, hframe]
  -- Each figure grows by what the account of the turn says, and the settings stay.
  constructor
  · exact turn.lastScheduleLength_after hbalanced.lastScheduleLength
  · rw [countP_snoc past turn, turn.runs_after]
    exact hbalanced.runs.add _
  · rw [countP_snoc past turn, turn.skipped_after]
    exact hbalanced.skipped.add _
  · intro hrecording name
    rw [hsettings] at hrecording
    rw [List.map_append, List.sum_append, List.map_singleton, List.sum_singleton,
      turn.executed_after hrecording name]
    exact (hbalanced.executed hrecording name).add _
  · intro hrecording name
    rw [hsettings] at hrecording
    rw [countP_snoc past turn, turn.failed_after hrecording name]
    exact (hbalanced.failed hrecording name).add _
  · intro hrecording
    rw [hsettings] at hrecording
    obtain ⟨hexecuted, hfailed⟩ := turn.unrecorded_after hrecording
    rw [hexecuted, hfailed]
    exact hbalanced.unrecorded hrecording

/-- Nothing but a run touches the counters, the schedule and the settings. -/
theorem operate_quiet (site : Site) {operation : Operation}
    (hquiet : operation.turns site = []) :
    (site.operate operation).manager.metrics = site.manager.metrics ∧
      (site.operate operation).manager.schedule = site.manager.schedule ∧
      (site.operate operation).manager.settings = site.manager.settings := by
  cases operation with
  | run timing => cases hquiet
  | add id =>
      rw [Site.operate, add]
      split
      · split <;> exact ⟨rfl, rfl, rfl⟩
      · exact ⟨rfl, rfl, rfl⟩
  | setDefaultPass id => exact ⟨rfl, rfl, rfl⟩
  | setDefaultResults results => exact ⟨rfl, rfl, rfl⟩
  | setStream stream => exact ⟨rfl, rfl, rfl⟩
  | collect =>
      obtain ⟨_, _, _, hframe⟩ := site.collect_frame
      rw [Site.operate, hframe]
      exact ⟨rfl, rfl, rfl⟩
  | dump =>
      obtain ⟨_, hframe⟩ := site.dump_frame
      rw [Site.operate, hframe]
      exact ⟨rfl, rfl, rfl⟩

theorem Balanced.quiet {manager : Manager} {past : List Turn} (hbalanced : manager.Balanced past)
    {world : World} {operation : Operation} (hquiet : operation.turns ⟨manager, world⟩ = []) :
    ((⟨manager, world⟩ : Site).operate operation).manager.Balanced
      (past ++ operation.turns ⟨manager, world⟩) := by
  obtain ⟨hmetrics, hschedule, hsettings⟩ := operate_quiet ⟨manager, world⟩ hquiet
  rw [hquiet, List.append_nil]
  constructor
  · rw [hmetrics, hschedule]
    exact hbalanced.lastScheduleLength
  · rw [hmetrics]
    exact hbalanced.runs
  · rw [hmetrics]
    exact hbalanced.skipped
  · rw [hmetrics, hsettings]
    exact hbalanced.executed
  · rw [hmetrics, hsettings]
    exact hbalanced.failed
  · rw [hmetrics, hsettings]
    exact hbalanced.unrecorded

theorem Past.balanced {manager : Manager} {past : List Turn} (hpast : manager.Past past) :
    manager.Balanced past := by
  induction hpast with
  | created hcreate => exact balanced_create hcreate
  | @operated manager past _ world operation ih =>
      cases operation with
      | run timing => exact ih.run world timing
      | _ => exact ih.quiet rfl

theorem Past.exists_entries {manager : Manager} {past : List Turn} (hpast : manager.Past past) :
    ∃ entries : List Posting, manager.metrics = Metrics.ofPostings entries := by
  induction hpast with
  | created hcreate =>
      rw [create] at hcreate
      split at hcreate
      · cases hcreate
      · cases hcreate
        exact ⟨[], rfl⟩
  | @operated manager past _ world operation ih =>
      obtain ⟨before, hbefore⟩ := ih
      cases operation with
      | run timing =>
          obtain ⟨entries, hentries⟩ := (⟨⟨manager, world⟩, timing⟩ : Turn).exists_entries
          refine ⟨before ++ entries, hentries.trans ?_⟩
          rw [Turn.metrics, hbefore, Metrics.ofPostings, Metrics.ofPostings, List.foldl_append]
      | _ => exact ⟨before, (operate_quiet ⟨manager, world⟩ rfl).1.trans hbefore⟩

/-- Whatever has been done to a manager, it keeps a mean and a latest end for exactly the names
that it has counted a completed slot of. -/
theorem Past.mem_executed_iff {manager : Manager} {past : List Turn} (hpast : manager.Past past)
    (name : String) :
    (name ∈ manager.metrics.executed ↔ name ∈ manager.metrics.averages) ∧
      (name ∈ manager.metrics.executed ↔ name ∈ manager.metrics.lastRun) := by
  obtain ⟨entries, hentries⟩ := hpast.exists_entries
  rw [hentries]
  exact ⟨(Metrics.mem_averages_iff entries name).symm, (Metrics.mem_lastRun_iff entries name).symm⟩

/-- After runs of few slots in all, the counters have room for more. -/
theorem Balanced.hasRoom {manager : Manager} {past : List Turn} (hbalanced : manager.Balanced past)
    (hrecording : manager.settings.recordMetrics = true) {length : ℕ}
    (hslots : (past.map fun turn => turn.after.schedule.length).sum + length < 2 ^ 64)
    (hruns : past.length + 1 < 2 ^ 64) (world : World) (timing : Timing) :
    (⟨⟨manager, world⟩, timing⟩ : Turn).HasRoom length where
  executed name := by
    have htells := (hbalanced.executed hrecording name).toNat_le
    have hcount : (past.map fun turn => {slot | turn.Completes name slot}.ncard).sum ≤
        (past.map fun turn => turn.after.schedule.length).sum :=
      List.sum_le_sum fun turn _ => turn.ncard_completed_le name
    show (manager.metrics.executed.getD name 0).toNat + length < 2 ^ 64
    omega
  failed name := by
    have htells := (hbalanced.failed hrecording name).toNat_le.trans List.countP_le_length
    show (manager.metrics.failed.getD name 0).toNat + 1 < 2 ^ 64
    omega
  skipped := by
    have htells := hbalanced.skipped.toNat_le.trans List.countP_le_length
    show manager.metrics.skipped.toNat + 1 < 2 ^ 64
    omega

/-- Whatever has been done to a manager, its counters agree with its runs, and so does the
length of the latest schedule.  If every slot is recorded, then each run adds what it has
completed or skipped, and one failure if it fails.  All of this is exact as long as no counter
overflows, as none does before there have been `2 ^ 64` slots, and modulo `2 ^ 64` in any case. -/
theorem counters_balanced {manager : Manager} {past : List Turn} (hpast : manager.Past past) :
    manager.Balanced past ∧
    (∀ turn : Turn, turn.site.manager.settings.recordMetrics = true → turn.Conserves) ∧
    (manager.settings.recordMetrics = true → ∀ length,
      (past.map fun turn => turn.after.schedule.length).sum + length < 2 ^ 64 →
      past.length + 1 < 2 ^ 64 →
      ∀ world timing, (⟨⟨manager, world⟩, timing⟩ : Turn).HasRoom length) := by
  refine ⟨hpast.balanced, fun turn hrecording => turn.conserves hrecording, ?_⟩
  intro hrecording length hslots hruns
  exact hpast.balanced.hasRoom hrecording hslots hruns

/-- Pass `1` requires `2` and `3`, which have the same name, and has the given verdict on its
run. -/
def survey (verified : Bool) : World where
  catalog := ({ admission := .free } : Catalog)
    |>.install ⟨0⟩ registration
    |>.install ⟨1⟩ {
      name := "Scan", arg := "scan"
      behaviour := {
        declarations := [.require ⟨2⟩, .require ⟨3⟩]
        run := .done { succeeded := true, verified } } }
    |>.install ⟨2⟩
      { name := "Load", arg := "load", behaviour := { run := .done { succeeded := true } } }
    |>.install ⟨3⟩
      { name := "Load", arg := "fetch", behaviour := { run := .done { succeeded := true } } }

/-- Runs pass `1` by default, from a value for `2`. -/
def surveyor : Manager where
  own := ⟨0⟩
  managed := (∅ : IdSet).insert ⟨0⟩ |>.insert ⟨1⟩ |>.insert ⟨2⟩ |>.insert ⟨3⟩
  defaultPass := some ⟨1⟩
  defaultResults := (∅ : Results).insert ⟨2⟩ .unit

/-- A run that succeeds. -/
def firstSurvey : Turn := ⟨⟨surveyor, survey true⟩, {}⟩

/-- A run that fails at its last slot. -/
def secondSurvey : Turn := ⟨⟨firstSurvey.after, survey false⟩, {}⟩

theorem past_surveyor : surveyor.Past [] := by
  have hcreate : create (survey true) {} =
      .ok ({ own := ⟨0⟩, managed := (∅ : IdSet).insert ⟨0⟩ },
        (survey true).log (managing ⟨0⟩)) := rfl
  have hone := (Past.created hcreate).operated (survey true) (.add ⟨1⟩)
  have htwo := (hone.operated (survey true) (.add ⟨2⟩)).operated (survey true) (.add ⟨3⟩)
  exact (htwo.operated (survey true) (.setDefaultPass ⟨1⟩)).operated (survey true)
    (.setDefaultResults ((∅ : Results).insert ⟨2⟩ .unit))

theorem executes_survey : ∃ schedule, secondSurvey.Executes schedule := by
  have hcollect : secondSurvey.site.collect.1 = .ok () := by decide +kernel
  have hempty : secondSurvey.site.collect.2.manager.selected.isEmpty = true := by decide +kernel
  have hdefault : secondSurvey.site.collect.2.manager.defaultPass = some ⟨1⟩ := by
    decide +kernel
  have hready : secondSurvey.site.Ready {} _ := .byDefault (Prod.ext hcollect rfl) hempty hdefault
  exact ⟨[⟨2⟩, ⟨3⟩, ⟨1⟩], _, hready, by decide +kernel, by decide +kernel⟩

theorem counters_balanced_survey :
    secondSurvey.after.Past [firstSurvey, secondSurvey] ∧
    {slot | firstSurvey.Completes "Load" slot}.ncard +
      {slot | secondSurvey.Completes "Load" slot}.ncard = 2 ∧
    total secondSurvey.after.metrics.failed = total firstSurvey.after.metrics.failed + 1 := by
  have honce : firstSurvey.after.Past [firstSurvey] :=
    past_surveyor.operated (survey true) (.run {})
  have hpast : secondSurvey.after.Past [firstSurvey, secondSurvey] :=
    honce.operated (survey false) (.run {})
  have hfirst : firstSurvey.after.schedule.length = 3 := by decide +kernel
  have hsecond : secondSurvey.after.schedule.length = 3 := by decide +kernel
  obtain ⟨hbalanced, hconserves, -⟩ := counters_balanced hpast
  obtain ⟨-, -, hroom⟩ := counters_balanced honce
  refine ⟨hpast, ?_, ?_⟩
  · have htells := hbalanced.executed (by decide +kernel) "Load"
    have hloads : secondSurvey.after.metrics.executed.getD "Load" 0 = 2 := by decide +kernel
    have hfew := firstSurvey.ncard_completed_le "Load"
    have hfewAgain := secondSurvey.ncard_completed_le "Load"
    rw [hloads] at htells
    simpa using (htells.exact (by simp; omega)).symm
  · have hresult : secondSurvey.result = .ok false := by decide +kernel
    obtain ⟨schedule, hschedule⟩ := executes_survey
    have hlength : schedule.length = 3 := by
      obtain ⟨ready, hexecutes⟩ := hschedule
      have heq : secondSurvey.after.schedule = schedule := hexecutes.schedule_eq
      rw [← heq, hsecond]
    obtain ⟨hraises, -⟩ := (hconserves secondSurvey (by decide +kernel)).failed schedule hschedule
      hresult
    refine hraises.exact ?_
    rw [hlength]
    exact hroom (by decide +kernel) 3 (by simp [hfirst]) (by simp) (survey false) {}

end Manager

end PassPipeline
