import PassPipeline.Proofs.Catalog.Growth
import PassPipeline.Proofs.History.Ledger
import PassPipeline.Proofs.Run.Recording

/-!
# The change counters over whole histories

However many managers share a catalogue and whatever they do, a change counter is what was
added to it directly and what its pass has reported in the slots that succeeded, in all runs
together, modulo the width of a counter (`changes_credited`).

The entries of the history, its `Booking`s, are the direct additions and the runs.  A run is
credited with its slots whose run and check have both succeeded, however the run ends
(`Turn.accrues`); if it is cut short outside the run of a pass, with the slots before.  What the
passes add directly while they run is booked with the run, whatever becomes of their slots.
-/

namespace PassPipeline

open Catalog

/-! ## Single runs -/

namespace Turn

/-- The run arrives at the slot, which comes with that amount. -/
def Earns (turn : Turn) (amounts : Site → ℕ → PassId → ℕ → Prop) (slot amount : ℕ) : Prop :=
  ∃ ran found, turn.Meets slot ran found ∧ amounts found slot ran amount

/-- The sum of what some of the slots come with. -/
noncomputable def earned (turn : Turn) (amounts : Site → ℕ → PassId → ℕ → Prop)
    (slots : Set ℕ) : ℕ :=
  ∑ᶠ entry ∈ {entry : ℕ × ℕ | entry.1 ∈ slots ∧ turn.Earns amounts entry.1 entry.2}, entry.2

/-- The changes that a pass is credited with for some of the slots: what it has reported in those
of its own that succeed. -/
noncomputable def credited (turn : Turn) (slots : Set ℕ) (id : PassId) : ℕ :=
  turn.earned (Site.Rewards id) slots

/-- What the runs that are called at some of the slots add directly to the counter of a pass. -/
noncomputable def added (turn : Turn) (slots : Set ℕ) (id : PassId) : ℕ :=
  turn.earned (Site.Adds id) slots

variable {turn : Turn} {ready : Site} {schedule : List PassId} {id : PassId}
  {amounts : Site → ℕ → PassId → ℕ → Prop}

theorem earned_eq_zero {slots : Set ℕ} (hnone : ∀ slot amount, ¬ turn.Earns amounts slot amount) :
    turn.earned amounts slots = 0 := by
  have hempty : {entry : ℕ × ℕ | entry.1 ∈ slots ∧ turn.Earns amounts entry.1 entry.2} = ∅ := by
    refine Set.eq_empty_of_forall_notMem ?_
    rintro ⟨slot, amount⟩ ⟨-, hearns⟩
    exact hnone slot amount hearns
  rw [earned, hempty, finsum_mem_empty]

theorem earns_iff (hexecutes : turn.site.Executes turn.timing ready schedule)
    {slot amount : ℕ} :
    turn.Earns amounts slot amount ↔
      Site.Earns amounts turn.timing schedule (ready.commit turn.timing schedule) slot amount := by
  simp only [Earns, Site.Earns, meets_iff hexecutes, and_assoc]

/-- The sum over some slots is that up to a slot, if beyond it there is nothing. -/
theorem earned_eq (hexecutes : turn.site.Executes turn.timing ready schedule) {slots : Set ℕ}
    {last : ℕ}
    (hslots : ∀ slot amount,
      Site.Earns amounts turn.timing schedule (ready.commit turn.timing schedule) slot amount →
        (slot ∈ slots ↔ slot < last)) :
    turn.earned amounts slots =
      Site.earned amounts turn.timing schedule (ready.commit turn.timing schedule) last := by
  have hsame : {entry : ℕ × ℕ | entry.1 ∈ slots ∧ turn.Earns amounts entry.1 entry.2} =
      {entry | entry.1 < last ∧ Site.Earns amounts turn.timing schedule
        (ready.commit turn.timing schedule) entry.1 entry.2} := by
    ext ⟨slot, amount⟩
    rw [Set.mem_ofPred_eq, Set.mem_ofPred_eq, earns_iff hexecutes]
    constructor
    · rintro ⟨hslot, hearns⟩
      exact ⟨(hslots slot amount hearns).mp hslot, hearns⟩
    · rintro ⟨hless, hearns⟩
      exact ⟨(hslots slot amount hearns).mpr hless, hearns⟩
  rw [earned, hsame, Site.earned]

/-- The catalogue at the first slot is that before the run. -/
theorem catalog_commit (hexecutes : turn.site.Executes turn.timing ready schedule) :
    (ready.commit turn.timing schedule).world.catalog = turn.site.world.catalog := by
  obtain ⟨_, _, _, hcommit⟩ := hexecutes.isReady.commit_eq schedule
  rw [hcommit]

theorem earned_before (hexecutes : turn.site.Executes turn.timing ready schedule) (last : ℕ) :
    turn.earned amounts {slot | slot < last} =
      Site.earned amounts turn.timing schedule (ready.commit turn.timing schedule) last :=
  earned_eq hexecutes fun _ _ _ => Iff.rfl

/-- Beyond a slot that ends the execution there is nothing. -/
theorem earned_univ (hexecutes : turn.site.Executes turn.timing ready schedule) {last : ℕ}
    {here : Site}
    (harrives : Site.Arrives turn.timing schedule (ready.commit turn.timing schedule) last here)
    (hstuck : here.Stuck turn.timing schedule last) :
    turn.earned amounts Set.univ =
      Site.earned amounts turn.timing schedule (ready.commit turn.timing schedule) (last + 1) := by
  refine earned_eq hexecutes ?_
  rintro slot amount ⟨ran, found, -, hfound, -⟩
  exact ⟨fun _ => Nat.lt_succ_of_le (hfound.le_of_stuck harrives hstuck),
    fun _ => Set.mem_univ slot⟩

/-- The counters at a slot. -/
theorem accrues_arrives (hexecutes : turn.site.Executes turn.timing ready schedule)
    (hkeeping : turn.site.world.catalog.Keeping) {last : ℕ} {here : Site}
    (harrives : Site.Arrives turn.timing schedule (ready.commit turn.timing schedule) last here) :
    turn.site.world.catalog.Accrues here.world.catalog fun id =>
      UInt64.ofNat
        (turn.credited {slot | slot < last} id + turn.added {slot | slot < last} id) := by
  have hstart := catalog_commit hexecutes
  have haccrues := harrives.accrues (by rw [hstart]; exact hkeeping)
  rw [hstart] at haccrues
  simpa only [credited, added, earned_before hexecutes] using haccrues

/-- The counters after a slot that ends the execution. -/
theorem accrues_stopped (hexecutes : turn.site.Executes turn.timing ready schedule)
    (hkeeping : turn.site.world.catalog.Keeping) {last : ℕ} {here : Site} {id : PassId}
    (harrives : Site.Arrives turn.timing schedule (ready.commit turn.timing schedule) last here)
    (hid : schedule[last]? = some id) (hstays : ¬ here.GoesOn turn.timing last id) :
    turn.site.world.catalog.Accrues (here.executeSlot turn.timing last id).2.world.catalog
      fun id => UInt64.ofNat (turn.credited Set.univ id + turn.added Set.univ id) := by
  have hstart := catalog_commit hexecutes
  have hbefore : (ready.commit turn.timing schedule).world.catalog.Keeping := by
    rw [hstart]
    exact hkeeping
  have haccrues := harrives.accrues_slot hbefore (harrives.accrues hbefore) hid
  rw [hstart] at haccrues
  simpa only [credited, added,
    earned_univ hexecutes harrives (Site.stuck_of_getElem? hid hstays)] using haccrues

theorem accrues_ends (hexecutes : turn.site.Executes turn.timing ready schedule)
    (hkeeping : turn.site.world.catalog.Keeping) {reached : Except Halt Bool × Site}
    (hended : Site.Ends turn.timing schedule (ready.commit turn.timing schedule) reached) :
    turn.site.world.catalog.Accrues reached.2.world.catalog fun id =>
      UInt64.ofNat (turn.credited Set.univ id + turn.added Set.univ id) := by
  have hstopped : ∀ {last : ℕ} {here after : Site} {ran : PassId} {outcome : SlotOutcome},
      Site.Arrives turn.timing schedule (ready.commit turn.timing schedule) last here →
      schedule[last]? = some ran → here.executeSlot turn.timing last ran = (outcome, after) →
      ¬ here.GoesOn turn.timing last ran →
      turn.site.world.catalog.Accrues after.world.catalog fun id =>
        UInt64.ofNat (turn.credited Set.univ id + turn.added Set.univ id) := by
    intro last here after ran outcome harrives hran hslot hstays
    have haccrues := accrues_stopped hexecutes hkeeping harrives hran hstays
    rwa [hslot] at haccrues
  cases hended with
  | @finished here harrives =>
    -- The schedule has no further slot, so that all is said up to its end.
    have hsame : ∀ amounts, turn.earned amounts Set.univ =
        turn.earned amounts {slot | slot < schedule.length} := by
      intro amounts
      rw [earned_before hexecutes]
      refine earned_eq hexecutes ?_
      rintro slot amount ⟨ran, found, hran, -⟩
      exact ⟨fun _ => (List.getElem?_eq_some_iff.mp hran).1, fun _ => Set.mem_univ slot⟩
    simpa only [credited, added, hsame] using accrues_arrives hexecutes hkeeping harrives
  | failed harrives hid hslot =>
    exact hstopped harrives hid hslot (by simp [Site.GoesOn, hslot])
  | halted harrives hid hslot =>
    exact hstopped harrives hid hslot (by simp [Site.GoesOn, hslot])

/-- A run adds to the counters what it is credited with and what its passes add, however it
ends. -/
theorem accrues (turn : Turn) (hkeeping : turn.site.world.catalog.Keeping) :
    turn.site.world.catalog.Accrues (turn.site.run turn.timing).2.world.catalog fun id =>
      UInt64.ofNat (turn.credited Set.univ id + turn.added Set.univ id) := by
  by_cases hruns : ∃ ready schedule, turn.site.Executes turn.timing ready schedule
  · obtain ⟨ready, schedule, hexecutes⟩ := hruns
    have haccrues := accrues_ends hexecutes hkeeping (Site.ends ..)
    rcases hreached : Site.executeFrom turn.timing 0 schedule
      (ready.commit turn.timing schedule) with ⟨result, after⟩
    obtain ⟨trace, hrun⟩ := hexecutes.run_slots hreached
    rw [hreached] at haccrues
    rw [hrun]
    exact haccrues
  · have hstops : turn.site.Stops turn.timing := by
      rw [Site.stops_iff]
      intro ready schedule hexecutes
      exact hruns ⟨ready, schedule, hexecutes⟩
    obtain ⟨_, _, _, _, hframe⟩ := hstops.frame
    have hnone : ∀ amounts, turn.earned amounts Set.univ = 0 := by
      intro amounts
      refine earned_eq_zero fun slot amount => ?_
      rintro ⟨ran, found, ⟨ready, schedule, hexecutes, -⟩, -⟩
      exact hruns ⟨ready, schedule, hexecutes⟩
    rw [hframe]
    simp only [credited, added, hnone]
    exact .refl _

/-- A pass that is not in the catalogue gets nothing. -/
theorem earned_of_absent (htells : Site.Tells id amounts)
    (hkeeping : turn.site.world.catalog.Keeping)
    (habsent : turn.site.world.catalog.find? id = none) (slots : Set ℕ) :
    turn.earned amounts slots = 0 := by
  refine earned_eq_zero fun slot amount => ?_
  rintro ⟨ran, found, ⟨ready, schedule, hexecutes, hid, hfound⟩, hamount⟩
  obtain ⟨pass, hpass⟩ := htells.present hamount
  have haccrues := accrues_arrives hexecutes hkeeping hfound
  exact absurd ((haccrues.find?_eq_none_iff.mpr habsent).symm.trans hpass) nofun

end Turn

/-! ## Counters that agree with a total -/

/-- Every counter is the total of its pass, as far as its width goes. -/
structure Catalog.Settled (catalog : Catalog) (total : PassId → ℕ) : Prop where
  keeping : catalog.Keeping
  numbered : catalog.Numbered
  absent : ∀ ⦃id⦄, catalog.find? id = none → total id = 0
  present : ∀ ⦃id pass⦄, catalog.find? id = some pass → pass.changes = UInt64.ofNat (total id)

namespace Catalog

variable {before after : Catalog} {total more : PassId → ℕ}

theorem settled_empty : ({} : Catalog).Settled fun _ => 0 where
  keeping := ⟨rfl, fun id pass hpass => by simp [find?] at hpass⟩
  numbered := numbered_empty
  absent _ _ := rfl
  present id pass hpass := by simp [find?] at hpass

theorem Settled.accrues (hsettled : before.Settled total)
    (haccrues : before.Accrues after fun id => UInt64.ofNat (more id))
    (hmore : ∀ id, before.find? id = none → more id = 0) :
    after.Settled fun id => total id + more id where
  keeping := haccrues.keeping hsettled.keeping
  numbered := haccrues.numbered hsettled.numbered
  absent id hnone := by
    have hbefore := haccrues.find?_eq_none_iff.mp hnone
    rw [hsettled.absent hbefore, hmore id hbefore]
  present id found hfound := by
    rcases hbefore : before.find? id with _ | pass
    · exact absurd ((haccrues.find?_eq_none_iff.mpr hbefore).symm.trans hfound) nofun
    · rw [haccrues.changes_eq hbefore hfound, hsettled.present hbefore, UInt64.ofNat_add]

theorem Settled.extends (hsettled : before.Settled total) (hextends : before.Extends after) :
    after.Settled total := by
  have haccount : ∀ id found, after.find? id = some found →
      found.account = (id, UInt64.ofNat (total id)) := by
    intro id found hfound
    rcases hbefore : before.find? id with _ | pass
    · rw [hextends.fresh hbefore hfound, hsettled.absent hbefore]
      rfl
    · have hkept := hextends.kept hbefore
      rw [hfound] at hkept
      rw [Option.some.inj hkept, Descriptor.account, hsettled.keeping.id_eq hbefore,
        hsettled.present hbefore]
  refine ⟨⟨?_, ?_⟩, hextends.numbered, ?_, ?_⟩
  · exact hextends.admission.trans hsettled.keeping.admission
  · intro id found hfound
    exact (Prod.mk.inj (haccount id found hfound)).1
  · intro id hnone
    refine hsettled.absent (Option.eq_none_iff_forall_ne_some.mpr fun pass hpass => ?_)
    have hkept := hextends.kept hpass
    rw [hnone] at hkept
    cases hkept
  · intro id found hfound
    exact (Prod.mk.inj (haccount id found hfound)).2

end Catalog

/-! ## Histories -/

/-- What the change counters are credited with. -/
inductive Booking where
  | addition (id : PassId) (count : UInt64)
  | run (turn : Turn)
  /-- A run that is cut short in a slot, before the pass has run there or after it. -/
  | interrupted (turn : Turn) (slot : ℕ) (ran : Bool)

/-- The credit of a pass: what is added to its counter directly, and what it reports in the slots
of its own that succeed. -/
noncomputable def Booking.credit (id : PassId) : Booking → ℕ
  | addition credited count => if id = credited then count.toNat else 0
  | run turn => turn.credited Set.univ id + turn.added Set.univ id
  | interrupted turn slot ran =>
    turn.credited {earlier | earlier < slot} id +
      turn.added {earlier | earlier < slot ∨ (ran = true ∧ earlier = slot)} id

/-- The credit of a pass in a whole history. -/
noncomputable def Booking.total (bookings : List Booking) (id : PassId) : ℕ :=
  (bookings.map (credit id)).sum

/-- A direct addition counts unless the pass is unknown. -/
def Request.bookings (catalog : Catalog) : Request → List Booking
  | addChanges id count => if (catalog.find? id).isSome then [.addition id count] else []
  | _ => []

/-- The worlds that can come about, with what has been booked since the catalogue was empty.
Any number of managers may have been at work.  Identities do not run out. -/
inductive Chronicle : List Booking → World → Prop
  | opened {world : World} (hempty : world.catalog = {}) : Chronicle [] world
  | asked {bookings : List Booking} {world : World} (hchronicle : Chronicle bookings world)
      (request : Request) (hroom : (request.onCatalog.run world.catalog).2.size < 2 ^ 32) :
      Chronicle (bookings ++ request.bookings world.catalog)
        { world with catalog := (request.onCatalog.run world.catalog).2 }
  | operated {bookings : List Booking} {world : World} (hchronicle : Chronicle bookings world)
      (manager : Manager) (operation : Manager.Operation) :
      Chronicle (bookings ++ (operation.turns ⟨manager, world⟩).map .run)
        ((⟨manager, world⟩ : Site).operate operation).world
  /-- An instance dies before or after its run, outside of what its run does. -/
  | died {bookings : List Booking} {world : World} (hchronicle : Chronicle bookings world)
      {turn : Turn} (hworld : turn.site.world = world) {slot : ℕ} {id : PassId} {here : Site}
      (hmeets : turn.Meets slot id here) {pass : Descriptor}
      (hpass : here.world.catalog.find? id = some pass) {ran : Bool} {after : World}
      (hafter : after.catalog = here.world.catalog ∧ ran = false ∨
        after.catalog = (pass.behaviour.run.exec (here.entrance pass)).2.world.catalog ∧
          ¬ here.Satisfied slot id ∧ ran = true) :
      Chronicle (bookings ++ [.interrupted turn slot ran]) after
  /-- Managers are created, instances die while they are asked for what they use, input is
  read. -/
  | elsewhere {bookings : List Booking} {world : World} (hchronicle : Chronicle bookings world)
      {after : World} (hcatalog : after.catalog = world.catalog) : Chronicle bookings after

namespace Catalog.Settled

variable {catalog after : Catalog} {bookings : List Booking}

theorem book (hsettled : catalog.Settled (Booking.total bookings)) {booking : Booking}
    (haccrues : catalog.Accrues after fun id => UInt64.ofNat (booking.credit id))
    (hnone : ∀ id, catalog.find? id = none → booking.credit id = 0) :
    after.Settled (Booking.total (bookings ++ [booking])) := by
  have htotal : Booking.total (bookings ++ [booking]) =
      fun id => Booking.total bookings id + booking.credit id := by
    funext id
    simp [Booking.total]
  rw [htotal]
  exact hsettled.accrues haccrues hnone

theorem ask (hsettled : catalog.Settled (Booking.total bookings)) (request : Request)
    (hroom : (request.onCatalog.run catalog).2.size < 2 ^ 32) :
    (request.onCatalog.run catalog).2.Settled
      (Booking.total (bookings ++ request.bookings catalog)) := by
  -- Additions are all that a request can book.
  by_cases hquiet : ∀ id count, request ≠ .addChanges id count
  · have hnothing : request.bookings catalog = [] := by
      cases request with
      | addChanges id count => exact absurd rfl (hquiet id count)
      | _ => rfl
    rw [hnothing, List.append_nil]
    exact hsettled.extends ((Request.enlarges hquiet catalog).2 hsettled.numbered hroom)
  · push Not at hquiet
    obtain ⟨id, count, rfl⟩ := hquiet
    rw [Request.run_addChanges, Request.bookings]
    split
    · next hpresent =>
      have hcredit : ∀ other, (if other = id then count else 0) =
          UInt64.ofNat ((Booking.addition id count).credit other) := by
        intro other
        rw [Booking.credit]
        split
        · exact UInt64.ofNat_toNat.symm
        · rfl
      have haccrues := catalog.accrues_addChanges id count
      simp only [hcredit] at haccrues
      refine hsettled.book haccrues fun other hnone => ?_
      rw [Booking.credit, if_neg]
      rintro rfl
      rw [hnone] at hpresent
      cases hpresent
    · next habsent =>
      rw [Option.not_isSome_iff_eq_none] at habsent
      rw [List.append_nil, Catalog.update, habsent]
      exact hsettled

theorem takeTurn (turn : Turn)
    (hsettled : turn.site.world.catalog.Settled (Booking.total bookings)) :
    (turn.site.run turn.timing).2.world.catalog.Settled
      (Booking.total (bookings ++ [.run turn])) := by
  refine hsettled.book (turn.accrues hsettled.keeping) fun id hnone => ?_
  rw [Booking.credit, Turn.credited, Turn.added,
    Turn.earned_of_absent (Site.tells_rewards id) hsettled.keeping hnone,
    Turn.earned_of_absent (Site.tells_adds id) hsettled.keeping hnone]

/-- What the run of a pass has added when its instance dies stays. -/
theorem interrupt {turn : Turn}
    (hsettled : turn.site.world.catalog.Settled (Booking.total bookings)) {slot : ℕ}
    {id : PassId} {here : Site} (hmeets : turn.Meets slot id here) {pass : Descriptor}
    (hpass : here.world.catalog.find? id = some pass) {ran : Bool}
    (hafter : after = here.world.catalog ∧ ran = false ∨
      after = (pass.behaviour.run.exec (here.entrance pass)).2.world.catalog ∧
        ¬ here.Satisfied slot id ∧ ran = true) :
    after.Settled (Booking.total (bookings ++ [.interrupted turn slot ran])) := by
  have hnone : ∀ other, turn.site.world.catalog.find? other = none →
      (Booking.interrupted turn slot ran).credit other = 0 := by
    intro other hnone
    rw [Booking.credit, Turn.credited, Turn.added,
      Turn.earned_of_absent (Site.tells_rewards other) hsettled.keeping hnone,
      Turn.earned_of_absent (Site.tells_adds other) hsettled.keeping hnone]
  obtain ⟨ready, schedule, hexecutes, hid, harrives⟩ := hmeets
  have haccrued := Turn.accrues_arrives hexecutes hsettled.keeping harrives
  refine hsettled.book ?_ hnone
  rcases hafter with ⟨rfl, rfl⟩ | ⟨rfl, hunsatisfied, rfl⟩
  · simpa [Booking.credit] using haccrued
  · have hpresent : ∀ other found, turn.site.world.catalog.find? other = some found →
        ∃ kept, here.world.catalog.find? other = some kept := by
      intro other found hfound
      refine Option.ne_none_iff_exists'.mp fun hmissing => ?_
      rw [haccrued.find?_eq_none_iff, hfound] at hmissing
      cases hmissing
    have hran := Site.accrues_entrance (haccrued.keeping hsettled.keeping) pass
    refine (haccrued.trans hran).congr fun other found hfound => ?_
    -- The slot at which the instance dies adds what its run has added.
    have hslots : {earlier | earlier < slot ∨ ((true : Bool) = true ∧ earlier = slot)} =
        {earlier | earlier < slot + 1} := by
      ext earlier
      simp only [true_and, Set.mem_ofPred_eq]
      omega
    rw [Booking.credit, hslots, Turn.added, Turn.added, Turn.earned_before hexecutes,
      Turn.earned_before hexecutes,
      Site.earned_adds_succ hid harrives (hpresent other found hfound),
      Site.performed_of_unsatisfied hpass hunsatisfied]
    simp only [UInt64.ofNat_add]
    grind

end Catalog.Settled

/-- Nothing but a run touches the catalogue. -/
theorem Manager.catalog_operate (site : Site) {operation : Operation}
    (hquiet : operation.turns site = []) :
    (site.operate operation).world.catalog = site.world.catalog := by
  cases operation with
  | run timing => cases hquiet
  | add id =>
    rw [Site.operate, add]
    split
    · split <;> rfl
    · rfl
  | setDefaultPass id => rfl
  | setDefaultResults results => rfl
  | setStream stream => rfl
  | collect =>
    obtain ⟨_, _, _, hframe⟩ := site.collect_frame
    rw [Site.operate, hframe]
  | dump =>
    obtain ⟨_, hframe⟩ := site.dump_frame
    rw [Site.operate, hframe]
    rfl

theorem Chronicle.settled {bookings : List Booking} {world : World}
    (hchronicle : Chronicle bookings world) :
    world.catalog.Settled (Booking.total bookings) := by
  induction hchronicle with
  | opened hempty =>
    rw [hempty]
    exact settled_empty
  | asked hchronicle request hroom ih => exact ih.ask request hroom
  | @operated bookings world hchronicle manager operation ih =>
    cases operation with
    | run timing => exact ih.takeTurn ⟨⟨manager, world⟩, timing⟩
    | _ =>
      rw [Manager.catalog_operate ⟨manager, world⟩ rfl]
      simpa [Manager.Operation.turns] using ih
  | died hchronicle hworld hmeets hpass hafter ih =>
    subst hworld
    exact ih.interrupt hmeets hpass hafter
  | elsewhere hchronicle hcatalog ih =>
    rw [hcatalog]
    exact ih

/-- Whatever has been done to a catalogue and by whichever managers, a change counter is the
credit of its pass in the whole history, modulo its width: the direct additions, those that passes
make while they run included, and the reports of its slots that succeed.  Whether a manager
records, and what it has recorded, makes no difference to a run and what it leaves behind. -/
theorem changes_credited {bookings : List Booking} {world : World}
    (hchronicle : Chronicle bookings world) :
    (∀ id pass, world.catalog.find? id = some pass →
      pass.changes.toNat = (bookings.map (Booking.credit id)).sum % 2 ^ 64) ∧
    ∀ (site : Site) (timing : Timing) (recording : Bool) (metrics : Metrics),
      Site.Metered recording (site.run timing) ((site.metered recording metrics).run timing) := by
  refine ⟨fun id pass hpass => ?_, fun site timing recording metrics => ?_⟩
  · rw [hchronicle.settled.present hpass, UInt64.toNat_ofNat']
    rfl
  · exact site.run_metered recording metrics timing

/-- A pass that is nearly enough to fill its counter. -/
def counting : Registration where
  name := "Count"
  arg := "count"
  behaviour := { run := .done { succeeded := true, changes := 18446744073709551613 } }

/-- A pass that runs after `counting`, adds to its counter, and whose check fails. -/
def checking : Registration where
  name := "Check"
  arg := "check"
  behaviour :=
    { declarations := [.require ⟨1⟩],
      run := .perform (.credit ⟨1⟩ 4) fun _ =>
        .done { succeeded := true, verified := false, changes := 5 } }

/-- The world after a request. -/
def World.ask (world : World) (request : Request) : World :=
  { world with catalog := (request.onCatalog.run world.catalog).2 }

def stocked : World :=
  ({} : World) |>.ask (.register Manager.registration) |>.ask (.register counting)
    |>.ask (.register checking)

/-- Runs that pass by default. -/
def auditor (id : PassId) (recordMetrics : Bool) : Manager where
  own := ⟨0⟩
  settings := { recordMetrics }
  managed := (∅ : IdSet).insert ⟨0⟩ |>.insert ⟨1⟩ |>.insert ⟨2⟩
  defaultPass := some id

/-- A run that succeeds. -/
def firstAudit : Turn := ⟨⟨auditor ⟨1⟩ true, stocked⟩, {}⟩

/-- A run of another manager, which fails after the slot of `counting`. -/
def secondAudit : Turn := ⟨⟨auditor ⟨2⟩ false, (firstAudit.site.run {}).2.world⟩, {}⟩

def audited : World := (secondAudit.site.run {}).2.world.ask (.addChanges ⟨1⟩ 7)

theorem chronicle_audited :
    Chronicle [.run firstAudit, .run secondAudit, .addition ⟨1⟩ 7] audited := by
  have hstocked : Chronicle [] stocked :=
    (((Chronicle.opened rfl).asked (.register Manager.registration) (by decide +kernel)).asked
      (.register counting) (by decide +kernel)).asked (.register checking) (by decide +kernel)
  have hruns : Chronicle [.run firstAudit, .run secondAudit] (secondAudit.site.run {}).2.world :=
    (hstocked.operated (auditor ⟨1⟩ true) (.run {})).operated (auditor ⟨2⟩ false) (.run {})
  have hpresent : ((secondAudit.site.run {}).2.world.catalog.find? ⟨1⟩).isSome = true := by
    decide +kernel
  have hasked := hruns.asked (.addChanges ⟨1⟩ 7) (by decide +kernel)
  rwa [Request.bookings, if_pos hpresent] at hasked

/-- The counter has gone round twice, the failed slot is not on it but for what its run has added,
and a manager that records runs as the one that does not. -/
theorem changes_credited_audited :
    Chronicle [.run firstAudit, .run secondAudit, .addition ⟨1⟩ 7] audited ∧
    (audited.catalog.find? ⟨1⟩).map (·.changes) = some 5 ∧
    (firstAudit.credited Set.univ ⟨1⟩ + firstAudit.added Set.univ ⟨1⟩ +
      (secondAudit.credited Set.univ ⟨1⟩ + secondAudit.added Set.univ ⟨1⟩ + 7)) % 2 ^ 64 = 5 ∧
    (firstAudit.credited Set.univ ⟨2⟩ + firstAudit.added Set.univ ⟨2⟩ +
      (secondAudit.credited Set.univ ⟨2⟩ + secondAudit.added Set.univ ⟨2⟩)) % 2 ^ 64 = 0 ∧
    ((secondAudit.site.metered true {}).run {}).1 = .ok false := by
  obtain ⟨hcredited, hmetered⟩ := changes_credited chronicle_audited
  have hone : (audited.catalog.find? ⟨1⟩).map (·.changes) = some 5 := by decide +kernel
  have htwo : (audited.catalog.find? ⟨2⟩).map (·.changes) = some 0 := by decide +kernel
  have hresult : (secondAudit.site.run {}).1 = .ok false := by decide +kernel
  obtain ⟨counting, hcounting, honce⟩ := Option.map_eq_some_iff.mp hone
  obtain ⟨checking, hchecking, hnever⟩ := Option.map_eq_some_iff.mp htwo
  have htotal := hcredited ⟨1⟩ counting hcounting
  have hfailed := hcredited ⟨2⟩ checking hchecking
  rw [honce] at htotal
  rw [hnever] at hfailed
  refine ⟨chronicle_audited, hone, ?_, ?_, ?_⟩
  · simpa [Booking.credit] using htotal.symm
  · simpa [Booking.credit] using hfailed.symm
  · obtain ⟨metrics, hrun⟩ := hmetered secondAudit.site {} true {}
    rw [hrun]
    exact hresult

end PassPipeline
