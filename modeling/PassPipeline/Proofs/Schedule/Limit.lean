import PassPipeline.Proofs.Schedule.Circles

/-!
# What the limit of a schedule does

The tours of the selected passes end whatever the dependencies are: with a schedule if
everything selected is grounded, and otherwise with the refusal of a circle.  Up to then
they take a certain number of slots.  A limit below that number cuts the search off, and
beyond that the limit makes no difference (`plan_threshold`).  So a limit is only about the
length of a schedule, and a search would end without one.

A search knows its limit from the start and a tour does not, so everything follows from
`build_eq_within`, where the limit is compared once with the slots of the whole tour.
-/

namespace PassPipeline

namespace Schedule

namespace Tour

/-- What a tour comes to if it has all the room that it needs. -/
def outcome (tour : Tour) : Except PassError (List PassId) :=
  match tour.refusal with
  | some error => .error error
  | none => .ok tour.visits.reverse

theorem outcome_eq_error {tour : Tour} {error : PassError} :
    tour.outcome = .error error ↔ tour.refusal = some error := by
  unfold outcome
  cases tour.refusal <;> simp

theorem outcome_eq_ok {tour : Tour} {schedule : List PassId} :
    tour.outcome = .ok schedule ↔ tour.refusal = none ∧ tour.visits.reverse = schedule := by
  unfold outcome
  cases tour.refusal <;> simp

theorem within_eq (tour : Tour) (limit : Nat) :
    tour.within limit =
      if tour.visits.length ≤ limit then tour.outcome
      else .error (.scheduleLimitExceeded limit) := by
  by_cases hroom : tour.visits.length ≤ limit
  · have hwithin : ¬ limit < tour.visits.length := by omega
    cases hrefusal : tour.refusal with
    | none => simp [within, proceed, outcome, hrefusal, hroom, hwithin]
    | some error => simp [within, proceed, outcome, hrefusal, hroom, hwithin]
  · have hover : limit < tour.visits.length := by omega
    simp [within, proceed, hroom, hover]

end Tour

namespace Graph

variable {graph : Graph}

/-- The tours are refused exactly if they reach a circle. -/
theorem refusal_tours_eq_none {selected : List PassId} :
    (graph.tours selected).refusal = none ↔
      ∀ id, graph.Reachable selected id → ¬ graph.OnCircle id := by
  rw [← grounded_iff_no_circle]
  constructor
  · exact grounded_of_tours
  · intro hgrounded
    rw [tours_of_grounded hgrounded]

end Graph

end Schedule

namespace Site

/-- The same manager in the same world, but for the limit of its schedules. -/
def limited (site : Site) (limit : Nat) : Site :=
  site.update fun manager =>
    { manager with settings := { manager.settings with scheduleLimit := limit } }

/-- Reports of circles and of passes without a name are no matter of the limit. -/
theorem refuse_ne_limit (site : Site) (passes : List PassId) (limit : Nat) :
    site.graph.refuse passes ≠ .scheduleLimitExceeded limit := by
  rcases site.refuse_cases passes with ⟨names, -, hrefuse⟩ | ⟨id, -, -, hrefuse⟩
  · rw [hrefuse]; nofun
  · rw [hrefuse]; nofun

/-- A manager needs a certain number of slots to plan, and with them it comes to an outcome,
whatever its dependencies are.  Neither depends on the limit, which only decides whether
there are that many slots.  The outcome is a schedule unless the selection reaches a
circle, and then the schedule takes just the slots that are needed. -/
theorem plan_threshold (site : Site) :
    ∃ (needed : Nat) (outcome : Except PassError (List PassId)),
      (∀ limit, (site.limited limit).plan =
        if needed ≤ limit then outcome else .error (.scheduleLimitExceeded limit)) ∧
      (∀ limit, outcome ≠ .error (.scheduleLimitExceeded limit)) ∧
      (∀ schedule, outcome = .ok schedule → schedule.length = needed) ∧
      ((∃ schedule, outcome = .ok schedule) ↔
        ∀ id, site.graph.Reachable site.manager.selected.toList id →
          ¬ site.graph.OnCircle id) := by
  -- The tour through the selection is made once, and the limit only cuts it.
  let tours := site.graph.tours site.manager.selected.toList
  refine ⟨tours.visits.length, tours.outcome, ?_, ?_, ?_, ?_⟩
  · intro limit
    exact (Schedule.build_eq_within site.graph limit site.manager.selected.toList).trans
      (tours.within_eq limit)
  · intro limit houtcome
    obtain ⟨passes, -, -, herror⟩ :=
      Schedule.Graph.refusal_tours (Schedule.Tour.outcome_eq_error.mp houtcome)
    exact site.refuse_ne_limit passes limit herror.symm
  · intro schedule houtcome
    obtain ⟨-, rfl⟩ := Schedule.Tour.outcome_eq_ok.mp houtcome
    exact List.length_reverse
  · rw [← Schedule.Graph.refusal_tours_eq_none]
    constructor
    · rintro ⟨schedule, houtcome⟩
      exact (Schedule.Tour.outcome_eq_ok.mp houtcome).1
    · intro hrefusal
      exact ⟨_, Schedule.Tour.outcome_eq_ok.mpr ⟨hrefusal, rfl⟩⟩

end Site

end PassPipeline
