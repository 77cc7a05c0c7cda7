import PassPipeline.Proofs.Metrics.Entries
import PassPipeline.Proofs.Run.Steps
import PassPipeline.Proofs.Run.Stopping

/-!
# What an execution records

An execution records its schedule, then one entry for each slot before a last one, and then
an entry more if the last slot fails (`execute_accounts`).  Which entry a slot has tells what
it came to, so that the entries of one kind are as many as the slots of that kind
(`ncard_completed`).
-/

namespace PassPipeline

open Metrics (Posting)

/-- The items of a kind are as many as their places in the list. -/
theorem ncard_places {α : Type} (list : List α) (condition : α → Bool) :
    {place : Nat | ∃ item, list[place]? = some item ∧ condition item = true}.ncard =
      list.countP condition := by
  induction list using List.reverseRecOn with
  | nil => simp
  | append_singleton list last ih =>
      have hplaces : {place : Nat | ∃ item, (list ++ [last])[place]? = some item ∧
            condition item = true} =
          {place : Nat | ∃ item, list[place]? = some item ∧ condition item = true} ∪
            {place | place = list.length ∧ condition last = true} := by
        ext place
        rcases Nat.lt_trichotomy place list.length with hlt | rfl | hgt
        · simp [List.getElem?_append_left hlt, hlt.ne]
        · simp
        · have hout : (list ++ [last])[place]? = none :=
            List.getElem?_eq_none (by simp; omega)
          simp [hout, hgt.ne', List.getElem?_eq_none hgt.le]
      have hfinite : {place : Nat | ∃ item, list[place]? = some item ∧
          condition item = true}.Finite := by
        refine (Set.finite_lt_nat list.length).subset ?_
        rintro place ⟨item, hitem, -⟩
        exact (List.getElem?_eq_some_iff.mp hitem).1
      rw [hplaces, List.countP_append, ← ih]
      cases hlast : condition last with
      | false => simp [hlast]
      | true =>
          have hnew : list.length ∉ {place : Nat | ∃ item, list[place]? = some item ∧
              condition item = true} := by
            simp
          have hunion : {place | place = list.length ∧ true = true} = {list.length} := by
            ext place
            simp
          rw [hunion, Set.union_singleton, Set.ncard_insert_of_notMem hnew hfinite]
          simp [hlast]

namespace Site

/-- The slot fails: the run does, or the check after it. -/
structure Fails (found : Site) (timing : Timing) (slot : Nat) (id : PassId)
    (pass : Descriptor) : Prop where
  resolved : found.world.catalog.find? id = some pass
  unsatisfied : ¬ found.Satisfied slot id
  outcome : (found.executeSlot timing slot id).1 = .failed
  failed : ∃ report, found.reported pass = some report ∧
    (report.succeeded && report.verified) = false

/-- The counters after the entries. -/
def posted (site : Site) (entries : List Posting) : Metrics :=
  site.manager.metrics.post site.manager.settings.recordMetrics entries

/-! ## The entries of slots -/

/-- The entry of a slot that lets the execution go on. -/
inductive Records (found : Site) (timing : Timing) (slot : Nat) (id : PassId) : Posting → Prop
  | skipped (hskips : found.Skips timing slot id) : Records found timing slot id .skip
  | completed {pass : Descriptor} (hcompletes : found.Completes timing slot id pass) :
      Records found timing slot id
        (.execution pass.name (timing.slot slot) (timing.finished slot))

theorem metrics_of_completed {found after : Site} {timing : Timing} {slot : Nat} {id : PassId}
    {pass : Descriptor} (hfind : found.world.catalog.find? id = some pass)
    (hslot : found.executeSlot timing slot id = (.completed, after)) :
    after.manager.metrics =
      found.posted [.execution pass.name (timing.slot slot) (timing.finished slot)] := by
  have hstep := found.slotStep timing slot id
  rw [hslot] at hstep
  cases hstep with
  | completed hfound _ _ _ _ =>
      cases hfind.symm.trans hfound
      rw [posted, Metrics.post_cons]
      unfold Manager.counted
      cases found.manager.settings.recordMetrics <;> rfl

theorem metrics_of_skipped {found after : Site} {timing : Timing} {slot : Nat} {id : PassId}
    (hslot : found.executeSlot timing slot id = (.skipped, after)) :
    after.manager.metrics = found.posted [.skip] := by
  have hstep := found.slotStep timing slot id
  rw [hslot] at hstep
  cases hstep with
  | skipped _ _ =>
      rw [posted, Metrics.post_cons]
      cases found.manager.settings.recordMetrics <;> rfl

theorem metrics_of_failed {found after : Site} {timing : Timing} {slot : Nat} {id : PassId}
    (hslot : found.executeSlot timing slot id = (.failed, after)) :
    ∃ pass, found.Fails timing slot id pass ∧
      after.manager.metrics = found.posted [.failure pass.name] := by
  have hstep := found.slotStep timing slot id
  rw [hslot] at hstep
  cases hstep with
  | @failed pass report scene trace hfind hsatisfied hexec hfailed =>
      have hreported : found.reported pass = some report := congrArg Prod.fst hexec
      refine ⟨pass, ⟨hfind, hsatisfied, congrArg Prod.fst hslot, report, hreported, hfailed⟩, ?_⟩
      rw [posted, Metrics.post_cons]
      unfold Manager.counted
      cases found.manager.settings.recordMetrics <;> rfl

theorem metrics_of_halted {found after : Site} {timing : Timing} {slot : Nat} {id : PassId}
    {halt : Halt} (hslot : found.executeSlot timing slot id = (.halted halt, after)) :
    after.manager.metrics = found.manager.metrics := by
  have hstep := found.slotStep timing slot id
  rw [hslot] at hstep
  cases hstep with
  | missing _ => rfl
  | panicked _ _ _ => rfl

theorem GoesOn.records {found : Site} {timing : Timing} {slot : Nat} {id : PassId}
    (hgoesOn : found.GoesOn timing slot id) :
    ∃ entry, found.Records timing slot id entry ∧
      (found.executeSlot timing slot id).2.manager.metrics = found.posted [entry] := by
  rcases hgoesOn.cases with ⟨pass, hcompletes⟩ | hskips
  · exact ⟨_, .completed hcompletes,
      metrics_of_completed hcompletes.resolved (Prod.ext hcompletes.outcome rfl)⟩
  · exact ⟨_, .skipped hskips, metrics_of_skipped (Prod.ext hskips.outcome rfl)⟩

/-- A slot comes to one thing only, which its entry tells. -/
theorem Records.eq_of_completes {found : Site} {timing : Timing} {slot : Nat} {id : PassId}
    {entry : Posting} {pass : Descriptor} (hrecords : found.Records timing slot id entry)
    (hcompletes : found.Completes timing slot id pass) :
    entry = .execution pass.name (timing.slot slot) (timing.finished slot) := by
  cases hrecords with
  | skipped hskips => exact absurd (hskips.outcome.symm.trans hcompletes.outcome) nofun
  | completed hagain =>
      cases hagain.resolved.symm.trans hcompletes.resolved
      rfl

theorem Records.eq_of_skips {found : Site} {timing : Timing} {slot : Nat} {id : PassId}
    {entry : Posting} (hrecords : found.Records timing slot id entry)
    (hskips : found.Skips timing slot id) : entry = .skip := by
  cases hrecords with
  | skipped _ => rfl
  | completed hcompletes => exact absurd (hskips.outcome.symm.trans hcompletes.outcome) nofun

/-! ## The entries of executions -/

variable {timing : Timing} {schedule : List PassId} {start : Site}

/-- The entries are those of the slots before `last`. -/
structure Journal (timing : Timing) (schedule : List PassId) (start : Site) (last : Nat)
    (entries : List Posting) : Prop where
  length_eq : entries.length = last
  entry_eq : ∀ slot < last, ∃ id found entry, schedule[slot]? = some id ∧
    Arrives timing schedule start slot found ∧ found.Records timing slot id entry ∧
    entries[slot]? = some entry

theorem Journal.snoc {last : Nat} {entries : List Posting}
    (hjournal : Journal timing schedule start last entries) {id : PassId} {found : Site}
    {entry : Posting} (hid : schedule[last]? = some id)
    (hfound : Arrives timing schedule start last found)
    (hrecords : found.Records timing last id entry) :
    Journal timing schedule start (last + 1) (entries ++ [entry]) := by
  have hlength := hjournal.length_eq
  constructor
  · rw [List.length_append, hlength, List.length_singleton]
  · intro slot hslot
    rcases Nat.lt_succ_iff_lt_or_eq.mp hslot with hearlier | rfl
    · rw [List.getElem?_append_left (by omega)]
      exact hjournal.entry_eq slot hearlier
    · refine ⟨id, found, entry, hid, hfound, hrecords, ?_⟩
      rw [List.getElem?_append_right (by omega), hlength, Nat.sub_self]
      rfl

theorem Journal.records {last : Nat} {entries : List Posting}
    (hjournal : Journal timing schedule start last entries) {slot : Nat} {entry : Posting}
    (hentry : entries[slot]? = some entry) :
    ∃ id found, schedule[slot]? = some id ∧ Arrives timing schedule start slot found ∧
      found.Records timing slot id entry := by
  have hslot : slot < last := by
    rw [← hjournal.length_eq]
    exact (List.getElem?_eq_some_iff.mp hentry).1
  obtain ⟨id, found, recorded, hid, hfound, hrecords, hrecorded⟩ := hjournal.entry_eq slot hslot
  cases hentry.symm.trans hrecorded
  exact ⟨id, found, hid, hfound, hrecords⟩

/-- An entry records a slot that was skipped or completed. -/
theorem Journal.entry_cases {last : Nat} {entries : List Posting}
    (hjournal : Journal timing schedule start last entries) {entry : Posting}
    (hentry : entry ∈ entries) :
    entry = .skip ∨ ∃ name duration finished, entry = .execution name duration finished := by
  obtain ⟨slot, hslot⟩ := List.mem_iff_getElem?.mp hentry
  obtain ⟨id, found, -, -, hrecords⟩ := hjournal.records hslot
  cases hrecords with
  | skipped _ => exact Or.inl rfl
  | completed _ => exact Or.inr ⟨_, _, _, rfl⟩

theorem Journal.countP_eq_zero {last : Nat} {entries : List Posting}
    (hjournal : Journal timing schedule start last entries) {condition : Posting → Bool}
    (hskip : condition .skip = false)
    (hexecution : ∀ name duration finished,
      condition (.execution name duration finished) = false) :
    entries.countP condition = 0 := by
  refine List.countP_eq_zero.mpr fun entry hentry => ?_
  rcases hjournal.entry_cases hentry with rfl | ⟨name, duration, finished, rfl⟩
  · simp [hskip]
  · simp [hexecution]

/-- The induction is on the slots at which the execution has arrived. -/
theorem Arrives.journal {last : Nat} {here : Site}
    (harrives : Arrives timing schedule start last here) :
    ∃ entries, Journal timing schedule start last entries ∧
      here.manager.metrics = start.posted entries := by
  induction last generalizing here with
  | zero =>
      rw [harrives.unique arrives_zero]
      exact ⟨[], ⟨rfl, fun slot hslot => absurd hslot (Nat.not_lt_zero slot)⟩, rfl⟩
  | succ last ih =>
      obtain ⟨id, before, hid, hbefore, hgoesOn, rfl⟩ := arrives_succ_iff.mp harrives
      obtain ⟨entries, hjournal, hmetrics⟩ := ih hbefore
      obtain ⟨entry, hrecords, hposted⟩ := hgoesOn.records
      obtain ⟨_, _, _, hframe⟩ := hbefore.frame
      refine ⟨_, hjournal.snoc hid hbefore hrecords, ?_⟩
      -- The settings stay, so the new entry is made or left out as the earlier ones were.
      have hsettings : before.manager.settings = start.manager.settings := by rw [hframe]
      rw [hposted, posted, posted, hmetrics, hsettings, Metrics.post_append]
      rfl

/-- How an execution ends at its last slot, with its result and the entries of the end. -/
inductive Closes (here : Site) (timing : Timing) (schedule : List PassId) (last : Nat) :
    Except Halt Bool → List Posting → Prop
  | finished (hlast : last = schedule.length) : Closes here timing schedule last (.ok true) []
  | failed {id : PassId} {pass : Descriptor} (hid : schedule[last]? = some id)
      (hfails : here.Fails timing last id pass) :
      Closes here timing schedule last (.ok false) [.failure pass.name]
  | halted {id : PassId} {halt : Halt} (hid : schedule[last]? = some id)
      (hhalts : (here.executeSlot timing last id).1 = .halted halt) :
      Closes here timing schedule last (.error halt) []

theorem Fails.stuck {here : Site} {slot : Nat} {id : PassId} {pass : Descriptor}
    (hfails : here.Fails timing slot id pass) (hid : schedule[slot]? = some id) :
    here.Stuck timing schedule slot :=
  stuck_of_getElem? hid (by simp [GoesOn, hfails.outcome])

theorem Closes.stuck {here : Site} {last : Nat} {result : Except Halt Bool}
    {closing : List Posting} (hcloses : here.Closes timing schedule last result closing) :
    here.Stuck timing schedule last := by
  cases hcloses with
  | finished hlast =>
      rw [hlast]
      exact stuck_length here timing schedule
  | failed hid hfails => exact hfails.stuck hid
  | halted hid hhalts => exact stuck_of_getElem? hid (by simp [GoesOn, hhalts])

/-- An execution records its schedule, the slots before a last one, and how it ends there. -/
theorem execute_accounts (ready : Site) (timing : Timing) (schedule : List PassId) :
    ∃ last here entries closing,
      Arrives timing schedule (ready.commit timing schedule) last here ∧
      Journal timing schedule (ready.commit timing schedule) last entries ∧
      here.Closes timing schedule last (ready.execute timing schedule).1 closing ∧
      (ready.execute timing schedule).2.manager.metrics =
        ready.posted (.schedule schedule.length :: entries ++ closing) := by
  have hends := ends timing schedule (ready.commit timing schedule)
  -- Whether slots are recorded or not, the length of the schedule is.
  have hcommit : ∀ entries, (ready.commit timing schedule).posted entries =
      ready.posted (.schedule schedule.length :: entries) := by
    intro entries
    have hrecorded : (ready.commit timing schedule).posted entries =
        (ready.manager.metrics.recordSchedule schedule.length).post
          ready.manager.settings.recordMetrics entries := rfl
    rw [hrecorded, posted, Metrics.post_cons]
    cases ready.manager.settings.recordMetrics <;> rfl
  have hpost : ∀ {last : Nat} {here : Site} {entries : List Posting} (closing : List Posting),
      Arrives timing schedule (ready.commit timing schedule) last here →
      here.manager.metrics = (ready.commit timing schedule).posted entries →
      here.posted closing = ready.posted (.schedule schedule.length :: entries ++ closing) := by
    intro last here entries closing harrives hmetrics
    obtain ⟨_, _, _, hframe⟩ := harrives.frame
    have hsettings : here.manager.settings = ready.manager.settings := by
      rw [hframe]
      rfl
    rw [posted, hmetrics, hcommit, hsettings, posted, posted, ← Metrics.post_append]
  rw [execute]
  generalize executeFrom timing 0 schedule (ready.commit timing schedule) = result at hends
  cases hends with
  | @finished here harrives =>
      obtain ⟨entries, hjournal, hmetrics⟩ := harrives.journal
      have hposted := hpost [] harrives hmetrics
      exact ⟨_, here, entries, [], harrives, hjournal, .finished rfl, hposted⟩
  | @failed last here after id harrives hid hslot =>
      obtain ⟨entries, hjournal, hmetrics⟩ := harrives.journal
      obtain ⟨pass, hfails, hposted⟩ := metrics_of_failed hslot
      exact ⟨last, here, entries, _, harrives, hjournal, .failed hid hfails,
        hposted.trans (hpost _ harrives hmetrics)⟩
  | @halted last here after id halt harrives hid hslot =>
      obtain ⟨entries, hjournal, hmetrics⟩ := harrives.journal
      exact ⟨last, here, entries, [], harrives, hjournal,
        .halted hid (congrArg Prod.fst hslot),
        (metrics_of_halted hslot).trans (hpost [] harrives hmetrics)⟩

end Site

end PassPipeline
