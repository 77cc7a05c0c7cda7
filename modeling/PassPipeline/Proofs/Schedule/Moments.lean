import PassPipeline.Proofs.Schedule.Tour

/-!
# The moments of a search

A search goes through three loops: from seed to seed, from visit to visit, and from child to
child.  A `Moment` is what it holds at the head of one of them, and `Moment.Arises` says which
moments there are, one constructor for each way through a loop.

The search that runs goes through all of a slot's children in one step.  `exists_ends` says that
the moments are its own nevertheless: one of them ends with the schedule, or with the refusal,
that is built.
-/

namespace PassPipeline.Schedule

/-! ## The loops of a search -/

/-- What a search holds at the head of one of its loops. -/
structure Moment where
  /-- The pass of each slot. -/
  schedule : Array PassId := #[]
  /-- The link of each slot, in a column of its own. -/
  parents : Array (Option Nat) := #[]
  stack : List Slot := []
  /-- The seeds that have been started, each with the slot that was the next one then. -/
  begun : List (PassId × Nat) := []
  /-- The children of the latest slot that have still to be looked at, as entries. -/
  pending : List Slot := []

namespace Moment

/-- The two columns side by side. -/
def slots (moment : Moment) : Array Slot := Array.zipWith Slot.mk moment.schedule moment.parents

/-- The entry takes the next slot, and its children are the next to be looked at. -/
def take (graph : Graph) (moment : Moment) (entry : Slot) (rest : List Slot) : Moment where
  schedule := moment.schedule.push entry.id
  parents := moment.parents.push entry.parent
  stack := rest
  begun := moment.begun
  pending := (graph.children entry.id).map (⟨·, some moment.schedule.size⟩)

variable (graph : Graph) (limit : Nat) (selected : List PassId)

/-- The moments of the search from the selected passes. -/
inductive Arises : Moment → Prop
  | start : Arises {}
  /-- The next seed is put on the stack when everything before it has been worked off. -/
  | seed {moment : Moment} {id : PassId} {later : List PassId} (harises : Arises moment)
      (hpending : moment.pending = []) (hstack : moment.stack = [])
      (hselected : selected = moment.begun.map Prod.fst ++ id :: later) :
      Arises { moment with
        stack := [⟨id, none⟩], begun := moment.begun ++ [(id, moment.schedule.size)] }
  /-- The entry on top of the stack takes a slot, if there is room for it. -/
  | slot {moment : Moment} {next : Slot} {rest : List Slot} (harises : Arises moment)
      (hpending : moment.pending = []) (hstack : moment.stack = next :: rest)
      (hroom : moment.schedule.size < limit) :
      Arises (moment.take graph next rest)
  /-- A child that closes no circle is put on the stack. -/
  | child {moment : Moment} {entry : Slot} {more : List Slot} (harises : Arises moment)
      (hpending : moment.pending = entry :: more)
      (hoff : entry.id ∉ above moment.slots entry.parent) :
      Arises { moment with stack := entry :: moment.stack, pending := more }

/-- The search ends at the moment, with a schedule or with a refusal. -/
inductive Ends (moment : Moment) : Except PassError (List PassId) → Prop
  | complete (hpending : moment.pending = []) (hstack : moment.stack = [])
      (hbegun : moment.begun.map Prod.fst = selected) :
      Ends moment (.ok moment.schedule.toList.reverse)
  | full {next : Slot} {rest : List Slot} (hpending : moment.pending = [])
      (hstack : moment.stack = next :: rest) (hfull : moment.schedule.size = limit) :
      Ends moment (.error (.scheduleLimitExceeded limit))
  | closing {entry : Slot} {more : List Slot} (hpending : moment.pending = entry :: more)
      (hon : entry.id ∈ above moment.slots entry.parent) :
      Ends moment
        (.error (graph.refuse (circle (above moment.slots entry.parent) entry.id)))

end Moment

/-- The search as a moment, with its slots in two columns. -/
def Search.moment (search : Search) (begun : List (PassId × Nat)) (pending : List Slot) :
    Moment where
  schedule := search.slots.map (·.id)
  parents := search.slots.map (·.parent)
  stack := search.stack
  begun
  pending

variable {graph : Graph} {limit : Nat} {selected : List PassId} {slots : Array Slot}
  {search : Search} {begun : List (PassId × Nat)} {pending : List Slot} {moment : Moment}

open Moment (Arises Ends)

theorem Search.slots_moment : (search.moment begun pending).slots = search.slots := by
  rw [Moment.slots, moment, Array.zipWith_map]
  exact Array.zipWith_self.trans (Array.map_id' search.slots)

theorem Search.size_schedule_moment :
    (search.moment begun pending).schedule.size = search.slots.size := Array.size_map

theorem Search.take_moment (graph : Graph) (next : Slot) (rest : List Slot) :
    (search.moment begun pending).take graph next rest =
      Search.moment { slots := search.slots.push next, stack := rest } begun
        ((graph.children next.id).map (⟨·, some search.slots.size⟩)) := by
  simp [Moment.take, moment, Array.map_push]

theorem Moment.Arises.size_le (harises : moment.Arises graph limit selected) :
    moment.schedule.size ≤ limit := by
  induction harises with
  | start => exact Nat.zero_le limit
  | seed _ _ _ _ ih => exact ih
  | slot _ _ _ hroom _ =>
    rw [Moment.take, Array.size_push]
    exact hroom
  | child _ _ _ ih => exact ih

/-! ### The search that runs -/

/-- The children are looked at in order, up to the first that closes a circle. -/
theorem Moment.Arises.children {slot : Nat} {ids : List PassId}
    (harises : Arises graph limit selected (search.moment begun (ids.map (⟨·, some slot⟩)))) :
    match ids.find? ((path search.slots slot).contains ·) with
    | some closing => ∃ after, Arises graph limit selected after ∧
        Ends graph limit selected after
          (.error (graph.refuse (circle (path search.slots slot) closing)))
    | none => Arises graph limit selected
        (Search.moment
          { search with stack := (ids.map (⟨·, some slot⟩)).reverse ++ search.stack } begun []) := by
  induction ids generalizing search with
  | nil => exact harises
  | cons id rest ih =>
    have habove : above (search.moment begun ((id :: rest).map (⟨·, some slot⟩))).slots
        (some slot) = path search.slots slot := by
      rw [Search.slots_moment]
      rfl
    rw [List.find?_cons]
    -- A child on the path ends the search.  Another is pushed, and the next one is pending.
    by_cases hon : id ∈ path search.slots slot
    · simp only [List.contains_eq_mem, hon, decide_true]
      rw [← habove] at hon ⊢
      have hclosing : Ends graph limit selected
          (search.moment begun ((id :: rest).map (⟨·, some slot⟩))) _ := .closing rfl hon
      exact ⟨_, harises, hclosing⟩
    · simp only [List.contains_eq_mem, hon, decide_false]
      rw [← habove] at hon
      have hnext : Arises graph limit selected
          (Search.moment { search with stack := ⟨id, some slot⟩ :: search.stack } begun
            (rest.map (⟨·, some slot⟩))) := harises.child rfl hon
      simpa [List.contains_eq_mem] using ih hnext

/-- A visit takes a slot and looks at the children. -/
theorem Moment.Arises.visit {next : Slot} {rest : List Slot}
    (harises : Arises graph limit selected (search.moment begun []))
    (hstack : search.stack = next :: rest) (hroom : search.slots.size < limit) :
    (∃ after, search.visit graph next rest = .ok after ∧
      after.slots.size = search.slots.size + 1 ∧
      Arises graph limit selected (after.moment begun [])) ∨
    ∃ error after, search.visit graph next rest = .error error ∧
      Arises graph limit selected after ∧ Ends graph limit selected after (.error error) := by
  have htaken := harises.slot rfl hstack (by rwa [Search.size_schedule_moment])
  rw [Search.take_moment] at htaken
  have hchildren := htaken.children
  rw [Search.visit]
  split at hchildren
  · next child hclosing =>
    rw [hclosing]
    obtain ⟨after, hafter, hends⟩ := hchildren
    exact Or.inr ⟨_, after, rfl, hafter, hends⟩
  · next hopen =>
    rw [hopen]
    exact Or.inl ⟨_, rfl, Array.size_push .., hchildren⟩

/-- The induction is on the room that is left. -/
theorem Moment.Arises.explore {room : Nat}
    (harises : Arises graph limit selected (search.moment begun []))
    (hroom : search.slots.size + room = limit) :
    (∃ after, search.explore graph limit room = .ok after ∧ after.stack = [] ∧
      Arises graph limit selected (after.moment begun [])) ∨
    ∃ error after, search.explore graph limit room = .error error ∧
      Arises graph limit selected after ∧ Ends graph limit selected after (.error error) := by
  induction room generalizing search with
  | zero =>
    rw [Search.explore]
    rcases hstack : search.stack with _ | ⟨next, rest⟩
    · exact Or.inl ⟨search, rfl, hstack, harises⟩
    · have hfull : (search.moment begun []).schedule.size = limit :=
        Search.size_schedule_moment.trans hroom
      exact Or.inr ⟨_, _, rfl, harises, .full rfl hstack hfull⟩
  | succ room ih =>
    rw [Search.explore]
    rcases hstack : search.stack with _ | ⟨next, rest⟩
    · exact Or.inl ⟨search, rfl, hstack, harises⟩
    · dsimp only
      rcases harises.visit hstack (by omega) with ⟨after, hvisit, hsize, hafter⟩ |
        ⟨error, after, hvisit, hafter, hends⟩
      · rw [hvisit]
        exact ih hafter (by omega)
      · rw [hvisit]
        exact Or.inr ⟨error, after, rfl, hafter, hends⟩

/-- What is built is what one of the moments ends with. -/
theorem exists_ends (graph : Graph) (limit : Nat) (selected : List PassId) :
    ∃ moment, Arises graph limit selected moment ∧
      Ends graph limit selected moment (build graph limit selected) := by
  -- The induction is on the seeds that have not been started.
  have hseeds : ∀ (rest : List PassId) (search : Search) (begun : List (PassId × Nat)),
      selected = begun.map Prod.fst ++ rest → search.stack = [] →
      Arises graph limit selected (search.moment begun []) →
      ∃ moment, Arises graph limit selected moment ∧
        Ends graph limit selected moment
          ((rest.foldlM (fun search id =>
            ({ search with stack := [⟨id, none⟩] } : Search).explore graph limit
              (limit - search.slots.size)) search).map
            fun search => (search.slots.toList.map (·.id)).reverse) := by
    intro rest
    induction rest with
    | nil =>
      intro search begun hselected hstack harises
      rw [List.append_nil] at hselected
      have hcomplete : Ends graph limit selected (search.moment begun [])
          (.ok (search.moment begun []).schedule.toList.reverse) :=
        .complete rfl hstack hselected.symm
      have hschedule : (search.moment begun []).schedule.toList =
          search.slots.toList.map (·.id) := Array.toList_map
      rw [hschedule] at hcomplete
      exact ⟨_, harises, hcomplete⟩
    | cons id rest ih =>
      intro search begun hselected hstack harises
      have hsize := harises.size_le
      rw [Search.size_schedule_moment] at hsize
      have hseed : Arises graph limit selected
          (Search.moment { search with stack := [⟨id, none⟩] }
            (begun ++ [(id, search.slots.size)]) []) := by
        have hbegun := harises.seed rfl hstack hselected
        rwa [Search.size_schedule_moment] at hbegun
      rw [List.foldlM_cons]
      rcases hseed.explore (Nat.add_sub_cancel' hsize) with
        ⟨after, hexplore, hempty, hafter⟩ | ⟨error, after, hexplore, hafter, hends⟩
      · rw [hexplore]
        exact ih after _ (by simp [hselected]) hempty hafter
      · rw [hexplore]
        exact ⟨after, hafter, hends⟩
  have hstart : Search.moment {} [] [] = {} := by simp [Search.moment]
  exact hseeds selected {} [] rfl rfl (hstart ▸ .start)

end PassPipeline.Schedule
