import Mathlib.Data.List.Chain
import PassPipeline.Proofs.Schedule.Unfolding

/-!
# What stops a search

A tour is refused at a child that stands above it already, and then the passes from there
down to the refusal form a circle (`refusal_tour`): what stands above a pass is a path
without repetition, and `IsPath` keeps it one on the way down.  A tour that is not refused
has made the tours of all children, so its pass is grounded (`grounded_of_tour`).

Together with `tour_of_grounded` this says that the search tells circles from mere
repetitions, although it keeps no record of what it has visited (`plan_circle`): the
reported circle is one, a circle within reach is never missed, and without one none is
reported.
-/

namespace PassPipeline

namespace Schedule

open Relation

namespace Graph

variable {graph : Graph}

/-! ## Circles -/

theorem Circle.onCircle {passes : List PassId} (hpasses : graph.Circle passes) {id : PassId}
    (hid : id ∈ passes) : graph.OnCircle id := by
  obtain ⟨hlength, hclosed, -, hlinked⟩ := hpasses
  match passes, hlength, hclosed, hlinked, hid with
  | first :: second :: rest, _, hclosed, hlinked, hid =>
      have hlast : (second :: rest).getLast (by simp) = first := by
        simpa [List.getLast?_eq_getLast_of_ne_nil] using hclosed
      -- The first pass reaches all others, and all others reach the last, which is the first.
      have hfrom : ∀ other ∈ first :: second :: rest, ReflTransGen graph.Leads first other :=
        hlinked.induction _ _ (fun _ _ hstep hpath => hpath.tail hstep) fun _ => .refl
      have hto : ∀ other ∈ first :: second :: rest, ReflTransGen graph.Leads other first :=
        hlinked.backwards_induction _ _ (fun _ _ hstep hpath => hpath.head hstep) fun _ => by
          rw [List.getLast_cons (by simp), hlast]
      have hround : TransGen graph.Leads first first :=
        TransGen.head' (List.isChain_cons_cons.mp hlinked).1 (hto second (by simp))
      exact TransGen.trans_right (hto id hid) (hround.trans_left (hfrom id hid))

theorem Circle.reachable {passes selected : List PassId} (hpasses : graph.Circle passes)
    (hhead : ∀ first ∈ passes.head?, graph.Reachable selected first) {id : PassId}
    (hid : id ∈ passes) : graph.Reachable selected id := by
  refine hpasses.linked.induction _ _ (fun _ _ hstep hreach => hreach.trans (.single hstep))
    (fun hne => hhead _ (List.head?_eq_some_head hne)) id hid

/-- The listed passes lead to each other from the last to the first, without repetition. -/
structure IsPath (graph : Graph) (path : List PassId) : Prop where
  linked : path.IsChain fun later earlier => graph.Leads earlier later
  distinct : path.Nodup

theorem IsPath.cons {path : List PassId} {id child : PassId} (hpath : graph.IsPath (id :: path))
    (hchild : child ∈ graph.children id) (hoff : child ∉ id :: path) :
    graph.IsPath (child :: id :: path) :=
  ⟨List.isChain_cons_cons.mpr ⟨hchild, hpath.linked⟩, List.nodup_cons.mpr ⟨hoff, hpath.distinct⟩⟩

/-- A child that stands on the path to its parent closes a circle with it. -/
theorem IsPath.circle_of_mem {path : List PassId} {id child : PassId}
    (hpath : graph.IsPath (id :: path)) (hchild : child ∈ graph.children id)
    (hmem : child ∈ id :: path) : graph.Circle (circle (id :: path) child) := by
  -- The circle lists, in reverse, what stands on the path before the child.
  obtain ⟨below, rest, hsplit, hbelow⟩ := List.eq_append_cons_of_mem hmem
  have hcircle : circle (id :: path) child = (child :: below ++ [child]).reverse := by
    have htake : (id :: path).takeWhile (· ≠ child) = below := by
      rw [hsplit, List.takeWhile_append_of_pos]
      · simp
      · intro other hother
        have hne : other ≠ child := fun heq => hbelow (heq ▸ hother)
        simpa using hne
    rw [circle, htake]
    simp
  have hlinked : (child :: below ++ child :: rest).IsChain
      fun later earlier => graph.Leads earlier later := by
    rw [List.cons_append, ← hsplit]
    exact List.isChain_cons_cons.mpr ⟨hchild, hpath.linked⟩
  have hbelowDistinct : below.Nodup := by
    have hdistinct := hpath.distinct
    rw [hsplit] at hdistinct
    exact (List.nodup_append.mp hdistinct).1
  rw [hcircle]
  exact {
    two_le := by simp
    closed := by
      rw [List.getLast?_reverse, List.head?_reverse, List.getLast?_concat]
      rfl
    distinct := by
      rw [List.dropLast_reverse]
      simpa using ⟨hbelow, hbelowDistinct⟩
    linked := by
      have hbelowRest : child :: below ++ child :: rest = (child :: below ++ [child]) ++ rest := by
        simp
      rw [hbelowRest] at hlinked
      rw [List.isChain_reverse]
      exact hlinked.left_of_append }

/-! ## Refused tours -/

theorem exists_refused {tours : List Tour} {error : PassError}
    (hrefusal : (Tour.sequence tours).refusal = some error) :
    ∃ tour ∈ tours, tour.refusal = some error := by
  induction tours with
  | nil => cases hrefusal
  | cons first rest ih =>
      rw [Tour.sequence_cons, Tour.followedBy] at hrefusal
      cases hfirst : first.refusal with
      | some found =>
          simp only [hfirst] at hrefusal
          exact ⟨first, List.mem_cons_self, hfirst.trans hrefusal⟩
      | none =>
          simp only [hfirst] at hrefusal
          obtain ⟨tour, htour, hfound⟩ := ih hrefusal
          exact ⟨tour, List.mem_cons_of_mem first htour, hfound⟩

/-- What refuses a tour is a circle below one of the passes on the path to it. -/
theorem refusal_tour {path : List PassId} {id : PassId} {error : PassError}
    (hpath : graph.IsPath (id :: path)) (hrefusal : (graph.tour path id).refusal = some error) :
    ∃ passes, graph.Circle passes ∧ (∀ first ∈ passes.head?, graph.Reachable (id :: path) first) ∧
      error = graph.refuse passes := by
  induction path, id using Graph.tour.induct graph with
  | case1 path id child hclosing =>
      rw [tour_of_closing hclosing] at hrefusal
      have hmem : child ∈ id :: path := by simpa using List.find?_some hclosing
      refine ⟨_, hpath.circle_of_mem (List.mem_of_find?_eq_some hclosing) hmem, ?_, ?_⟩
      · intro first hfirst
        cases hfirst
        exact reachable_of_mem hmem
      · simpa using hrefusal.symm
  | case2 path id hopen ih =>
      -- The tour of some child is refused, and the path to that child is longer by `id`.
      rw [tour_of_open hopen] at hrefusal
      obtain ⟨tour, htour, hfound⟩ := exists_refused hrefusal
      obtain ⟨child, hchild, rfl⟩ := List.mem_map.mp htour
      have hoff : child ∉ id :: path := by
        simpa using List.find?_eq_none.mp hopen child (List.mem_reverse.mp hchild)
      obtain ⟨passes, hcircle, hhead, herror⟩ :=
        ih ⟨child, hchild⟩ (hpath.cons (List.mem_reverse.mp hchild) hoff) hfound
      refine ⟨passes, hcircle, fun first hfirst => ?_, herror⟩
      obtain ⟨start, hstart, hreach⟩ := hhead first hfirst
      rcases List.mem_cons.mp hstart with rfl | hstart
      · exact ⟨id, List.mem_cons_self, hreach.head (List.mem_reverse.mp hchild)⟩
      · exact ⟨start, hstart, hreach⟩

theorem refusal_tours {selected : List PassId} {error : PassError}
    (hrefusal : (graph.tours selected).refusal = some error) :
    ∃ passes, graph.Circle passes ∧ (∀ first ∈ passes.head?, graph.Reachable selected first) ∧
      error = graph.refuse passes := by
  obtain ⟨tour, htour, hfound⟩ := exists_refused hrefusal
  obtain ⟨start, hstart, rfl⟩ := List.mem_map.mp htour
  obtain ⟨passes, hcircle, hhead, herror⟩ := refusal_tour ⟨.singleton _, by simp⟩ hfound
  refine ⟨passes, hcircle, fun first hfirst => ?_, herror⟩
  obtain ⟨other, hother, hreach⟩ := hhead first hfirst
  rw [List.mem_singleton.mp hother] at hreach
  exact ⟨start, hstart, hreach⟩

/-! ## Tours that come to their end -/

theorem grounded_of_tour {path : List PassId} {id : PassId}
    (hrefusal : (graph.tour path id).refusal = none) : graph.Grounded id := by
  induction path, id using Graph.tour.induct graph with
  | case1 path id child hclosing =>
      rw [tour_of_closing hclosing] at hrefusal
      cases hrefusal
  | case2 path id hopen ih =>
      rw [tour_of_open hopen, Tour.refusal_followedBy, Tour.refusal_sequence] at hrefusal
      refine grounded_of_children fun child hchild => ?_
      have hmem := List.mem_reverse.mpr hchild
      exact ih ⟨child, hmem⟩ (hrefusal.2 _ (List.mem_map_of_mem hmem))

theorem grounded_of_tours {selected : List PassId}
    (hrefusal : (graph.tours selected).refusal = none) :
    ∀ start ∈ selected, graph.Grounded start := by
  intro start hstart
  exact grounded_of_tour (Tour.refusal_sequence.mp hrefusal _ (List.mem_map_of_mem hstart))

/-! ## The wording of a refusal -/

theorem exists_of_mapM_error {α β ε : Type} {step : α → Except ε β} {items : List α} {error : ε}
    (hitems : items.mapM step = .error error) : ∃ item ∈ items, step item = .error error := by
  induction items with
  | nil => cases hitems
  | cons first rest ih =>
      rw [List.mapM_cons] at hitems
      cases hfirst : step first with
      | error found =>
          rw [hfirst] at hitems
          cases hitems
          exact ⟨first, List.mem_cons_self, hfirst⟩
      | ok value =>
          rw [hfirst] at hitems
          cases hrest : rest.mapM step with
          | error found =>
              rw [hrest] at hitems
              cases hitems
              obtain ⟨item, hitem, hfound⟩ := ih hrest
              exact ⟨item, List.mem_cons_of_mem first hitem, hfound⟩
          | ok values =>
              rw [hrest] at hitems
              cases hitems

end Graph

/-- A tour ends for want of room, with its refusal, or with a schedule. -/
theorem Tour.within_cases (tour : Tour) (limit : Nat) :
    tour.within limit = .error (.scheduleLimitExceeded limit) ∨
      (∃ error, tour.refusal = some error ∧ tour.within limit = .error error) ∨
      (tour.refusal = none ∧ tour.within limit = .ok tour.visits.reverse) := by
  rw [within, proceed]
  split
  · exact Or.inl rfl
  · cases tour.refusal with
    | some error => exact Or.inr (Or.inl ⟨error, rfl, rfl⟩)
    | none => exact Or.inr (Or.inr ⟨rfl, rfl⟩)

end Schedule

/-! ## The refusals of a manager -/

namespace Site

/-- A circle is reported by the names of its passes, or else by a pass without a name. -/
theorem refuse_cases (site : Site) (passes : List PassId) :
    (∃ names, passes.mapM site.name = .ok names ∧
      site.graph.refuse passes = .cyclicDependency names) ∨
    ∃ id ∈ passes, site.world.catalog.find? id = none ∧
      site.graph.refuse passes = .unknownPass id := by
  have hgraph : site.graph.name = site.name := rfl
  rw [Schedule.Graph.refuse, hgraph]
  cases hnames : passes.mapM site.name with
  | ok names => exact Or.inl ⟨names, rfl, rfl⟩
  | error error =>
      obtain ⟨id, hid, hname⟩ := Schedule.Graph.exists_of_mapM_error hnames
      rw [name] at hname
      cases hinfo : site.world.catalog.info id with
      | ok pass => rw [hinfo] at hname; cases hname
      | error found =>
          rw [hinfo] at hname
          cases hname
          obtain ⟨hfind, rfl⟩ := Catalog.info_eq_error_iff.mp hinfo
          exact Or.inr ⟨id, hid, hfind, rfl⟩

/-- A reported circle is a circle that the selection reaches, told by the names of its
passes.  If the selection reaches a circle, there is no schedule: a circle is reported, or
a pass on one that has no name, unless the room ends before.  If it reaches none, neither
of these is reported. -/
theorem plan_circle (site : Site) :
    (∀ names, site.plan = .error (.cyclicDependency names) →
      ∃ passes, site.graph.Circle passes ∧
        (∀ first ∈ passes.head?, site.graph.Reachable site.manager.selected.toList first) ∧
        passes.mapM site.name = .ok names ∧
        (PassError.cyclicDependency names).message =
          "cyclic pass dependency: " ++ " -> ".intercalate names) ∧
    ((∃ id, site.graph.Reachable site.manager.selected.toList id ∧ site.graph.OnCircle id) →
      (∃ names, site.plan = .error (.cyclicDependency names)) ∨
      (∃ id, site.graph.Reachable site.manager.selected.toList id ∧ site.graph.OnCircle id ∧
        site.world.catalog.find? id = none ∧ site.plan = .error (.unknownPass id)) ∨
      site.plan = .error (.scheduleLimitExceeded site.manager.settings.scheduleLimit)) ∧
    ((∀ id, site.graph.Reachable site.manager.selected.toList id → ¬ site.graph.OnCircle id) →
      (∀ names, site.plan ≠ .error (.cyclicDependency names)) ∧
      ∀ id, site.plan ≠ .error (.unknownPass id)) := by
  have hplan : site.plan = (site.graph.tours site.manager.selected.toList).within
      site.manager.settings.scheduleLimit := Schedule.build_eq_within ..
  rw [hplan]
  rcases Schedule.Tour.within_cases (site.graph.tours site.manager.selected.toList)
    site.manager.settings.scheduleLimit with hlimit | ⟨error, hrefusal, herror⟩ | ⟨hnone, hok⟩
  · -- the room ends first
    rw [hlimit]
    exact ⟨nofun, fun _ => Or.inr (Or.inr rfl), fun _ => ⟨nofun, nofun⟩⟩
  · -- a circle is met
    obtain ⟨passes, hcircle, hhead, rfl⟩ := Schedule.Graph.refusal_tours hrefusal
    rw [herror]
    refine ⟨?_, ?_, ?_⟩
    · intro names hnames
      rcases site.refuse_cases passes with ⟨found, hfound, hrefuse⟩ | ⟨id, hid, hfind, hrefuse⟩
      · rw [hrefuse] at hnames
        cases hnames
        exact ⟨passes, hcircle, hhead, hfound, rfl⟩
      · rw [hrefuse] at hnames
        cases hnames
    · intro _
      rcases site.refuse_cases passes with ⟨found, hfound, hrefuse⟩ | ⟨id, hid, hfind, hrefuse⟩
      · exact Or.inl ⟨found, by rw [hrefuse]⟩
      · exact Or.inr (Or.inl ⟨id, hcircle.reachable hhead hid, hcircle.onCircle hid, hfind,
          by rw [hrefuse]⟩)
    · intro hfree
      obtain ⟨first, hfirst⟩ := List.exists_mem_of_length_pos
        (Nat.lt_of_lt_of_le Nat.zero_lt_two hcircle.two_le)
      exact absurd (hcircle.onCircle hfirst) (hfree first (hcircle.reachable hhead hfirst))
  · -- the search comes to its end
    have hfree := Schedule.Graph.grounded_iff_no_circle.mp
      (Schedule.Graph.grounded_of_tours hnone)
    rw [hok]
    refine ⟨nofun, fun ⟨id, hreach, hcircle⟩ => ?_, fun _ => ⟨nofun, nofun⟩⟩
    exact absurd hcircle (hfree id hreach)

/-- Pass `0` requires `1` and provides it as well. -/
def ring : Site where
  manager := {
    own := ⟨9⟩
    selected := (∅ : IdSet).insert ⟨0⟩
    dependencies := ({} : Dependencies)
      |>.insert ⟨0⟩ (.ofDeclarations [.require ⟨1⟩, .provide ⟨1⟩]) }
  world := {
    catalog := ({} : Catalog)
      |>.install ⟨0⟩ { name := "A", arg := "a", behaviour := { run := .done .failure } }
      |>.install ⟨1⟩ { name := "B", arg := "b", behaviour := { run := .done .failure } } }

theorem reaches_ring :
    ring.graph.Reachable ring.manager.selected.toList ⟨0⟩ ∧ ring.graph.OnCircle ⟨0⟩ := by
  have hselected : ring.manager.selected.toList = [⟨0⟩] := by decide
  have hforth : (⟨1⟩ : PassId) ∈ ring.graph.children ⟨0⟩ := by decide
  have hback : (⟨0⟩ : PassId) ∈ ring.graph.children ⟨1⟩ := by decide
  exact ⟨⟨⟨0⟩, by simp [hselected], .refl⟩, .head hforth (.single hback)⟩

theorem plan_ring :
    ring.plan = .error (.cyclicDependency ["A", "B", "A"]) ∧
    (∃ passes, ring.graph.Circle passes ∧ passes.mapM ring.name = .ok ["A", "B", "A"]) ∧
    (ring.graph.Reachable ring.manager.selected.toList ⟨0⟩ ∧ ring.graph.OnCircle ⟨0⟩) ∧
    (∀ schedule, ring.plan ≠ .ok schedule) ∧
    (∀ names, diamond.plan ≠ .error (.cyclicDependency names)) ∧
    ∀ id, diamond.plan ≠ .error (.unknownPass id) := by
  have hplan : ring.plan = .error (.cyclicDependency ["A", "B", "A"]) := by decide +kernel
  obtain ⟨hreported, hmissed, -⟩ := plan_circle ring
  obtain ⟨-, -, hnone⟩ := plan_circle diamond
  obtain ⟨passes, hcircle, -, hnames, -⟩ := hreported _ hplan
  refine ⟨hplan, ⟨passes, hcircle, hnames⟩, reaches_ring, fun schedule hok => ?_,
    hnone no_circle_diamond⟩
  rcases hmissed ⟨⟨0⟩, reaches_ring⟩ with ⟨names, herror⟩ | ⟨id, -, -, -, herror⟩ | herror
  · rw [herror] at hok; cases hok
  · rw [herror] at hok; cases hok
  · rw [herror] at hok; cases hok

end Site

end PassPipeline
