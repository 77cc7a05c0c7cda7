import PassPipeline.Manager.Run
import PassPipeline.Proofs.Schedule.Tour

/-!
# Schedules of acyclic dependencies

The unfolding of a pass lists the unfoldings of its children in order, and then the pass
itself: what has to run before a pass stands before it, once for each path that leads
there.  If the selected passes reach no circle, the schedule consists of their unfoldings,
the last selected pass first, and it is refused only for its length (`plan_unfolding`).

A tour visits a pass before its children and the last child first, and a schedule is a
tour read backwards, so `tour_of_grounded` compares a tour with a reversed unfolding.
-/

namespace PassPipeline

namespace Schedule

open Relation

namespace Graph

variable {graph : Graph}

open Classical in
/-- The unfolding of a grounded pass: the unfoldings of its children in order, and the
pass itself.  There is none for a pass that is not grounded. -/
noncomputable def unfolding (graph : Graph) (id : PassId) : List PassId :=
  if hid : graph.Grounded id then
    WellFounded.fixF (fun id below =>
      (graph.children id).attach.flatMap (fun child => below child.1 child.2) ++ [id]) id hid
  else []

theorem unfolding_eq {id : PassId} (hid : graph.Grounded id) :
    graph.unfolding id = (graph.children id).flatMap graph.unfolding ++ [id] := by
  have hchild : (fun child : { child // child ∈ graph.children id } =>
      WellFounded.fixF (fun id below =>
        (graph.children id).attach.flatMap (fun child => below child.1 child.2) ++ [id])
        child.1 (hid.child child.2)) = fun child => graph.unfolding child.1 :=
    funext fun child => (dif_pos (hid.child child.2)).symm
  refine (dif_pos hid).trans ((WellFounded.fixF_eq _ id hid).trans ?_)
  rw [hchild, List.flatMap_subtype fun _ _ => rfl, List.unattach_attach]

/-! ## Tours of grounded passes -/

theorem sequence_of_grounded {path ids : List PassId}
    (hids : ∀ id ∈ ids, graph.tour path id = { visits := (graph.unfolding id).reverse }) :
    Tour.sequence (ids.map (graph.tour path)) =
      { visits := (ids.reverse.flatMap graph.unfolding).reverse } := by
  induction ids with
  | nil => rfl
  | cons id ids ih =>
      have hrest := ih fun other hother => hids other (List.mem_cons_of_mem id hother)
      rw [List.map_cons, Tour.sequence_cons, hids id List.mem_cons_self, hrest]
      simp [Tour.followedBy]

/-- A grounded pass reaches neither itself again nor, here, what stands above it, so that
nothing closes a circle. -/
theorem tour_of_grounded {path : List PassId} {id : PassId} (hid : graph.Grounded id)
    (hpath : ∀ below, ReflTransGen graph.Leads id below → below ∉ path) :
    graph.tour path id = { visits := (graph.unfolding id).reverse } := by
  induction hid generalizing path with
  | intro id hchildren ih =>
      have hid : graph.Grounded id := grounded_of_children hchildren
      -- If a child reached what stands above it, that would be `id`, on a circle.
      have hoff : ∀ child ∈ graph.children id, ∀ below,
          ReflTransGen graph.Leads child below → below ∉ id :: path := by
        intro child hchild below hbelow hmem
        rcases List.mem_cons.mp hmem with rfl | hmem
        · exact hid.not_onCircle (TransGen.head' hchild hbelow)
        · exact hpath below (hbelow.head hchild) hmem
      have hopen : (graph.children id).find? ((id :: path).contains ·) = none := by
        rw [List.find?_eq_none]
        intro child hchild
        simpa using hoff child hchild child .refl
      have hbelow : ∀ child ∈ (graph.children id).reverse,
          graph.tour (id :: path) child = { visits := (graph.unfolding child).reverse } := by
        intro child hchild
        have hmem := List.mem_reverse.mp hchild
        exact ih child hmem (hoff child hmem)
      rw [tour_of_open hopen, sequence_of_grounded hbelow, unfolding_eq hid]
      simp [Tour.followedBy]

/-- The tours of grounded passes come to their end. -/
theorem tours_of_grounded {selected : List PassId}
    (hselected : ∀ start ∈ selected, graph.Grounded start) :
    graph.tours selected = { visits := (selected.reverse.flatMap graph.unfolding).reverse } :=
  sequence_of_grounded fun start hstart =>
    tour_of_grounded (hselected start hstart) fun _ _ => List.not_mem_nil

/-- The schedule of grounded passes is refused only for its length. -/
theorem build_of_grounded {selected : List PassId} (limit : Nat)
    (hselected : ∀ start ∈ selected, graph.Grounded start) :
    build graph limit selected =
      if (selected.reverse.flatMap graph.unfolding).length ≤ limit then
        .ok (selected.reverse.flatMap graph.unfolding)
      else .error (.scheduleLimitExceeded limit) := by
  rw [build_eq_within, tours_of_grounded hselected, Tour.within, Tour.proceed,
    List.length_reverse]
  by_cases hlimit : (selected.reverse.flatMap graph.unfolding).length ≤ limit
  · rw [if_neg (by omega), if_pos hlimit, List.reverse_reverse]
  · rw [if_pos (by omega), if_neg hlimit]

end Graph

end Schedule

/-! ## The schedule of a manager -/

namespace Site

/-- If the selected passes reach no circle, then below them an unfolding is made up of
those of the children and the pass itself, and the schedule lists the unfoldings of the
selected passes in descending order, if it has room for them. -/
theorem plan_unfolding (site : Site)
    (hcircle : ∀ id, site.graph.Reachable site.manager.selected.toList id →
      ¬ site.graph.OnCircle id) :
    (∀ id, site.graph.Reachable site.manager.selected.toList id →
      site.graph.unfolding id =
        (site.manager.dependencies.children id).flatMap site.graph.unfolding ++ [id]) ∧
    site.plan =
      if (site.manager.selected.toList.reverse.flatMap site.graph.unfolding).length ≤
          site.manager.settings.scheduleLimit then
        .ok (site.manager.selected.toList.reverse.flatMap site.graph.unfolding)
      else .error (.scheduleLimitExceeded site.manager.settings.scheduleLimit) := by
  have hgrounded := Schedule.Graph.grounded_iff_no_circle.mpr hcircle
  refine ⟨fun id hid => ?_, Schedule.Graph.build_of_grounded _ hgrounded⟩
  obtain ⟨start, hstart, hpath⟩ := hid
  exact Schedule.Graph.unfolding_eq ((hgrounded start hstart).reaches hpath)

/-- Passes `0` and `1` are selected.  Pass `0` requires `1` and `2`, each of them requires
`3`, and `3` provides `2` as well. -/
def diamond : Site where
  manager := {
    own := ⟨9⟩
    settings := { scheduleLimit := 8 }
    selected := (∅ : IdSet).insert ⟨0⟩ |>.insert ⟨1⟩
    dependencies := ({} : Dependencies)
      |>.insert ⟨0⟩ (.ofDeclarations [.require ⟨1⟩, .require ⟨2⟩])
      |>.insert ⟨1⟩ (.ofDeclarations [.require ⟨3⟩])
      |>.insert ⟨2⟩ (.ofDeclarations [.require ⟨3⟩])
      |>.insert ⟨3⟩ (.ofDeclarations [.provide ⟨2⟩]) }
  world := {}

theorem selected_diamond : diamond.manager.selected.toList = [⟨0⟩, ⟨1⟩] := by decide

theorem children_diamond :
    diamond.graph.children ⟨0⟩ = [⟨1⟩, ⟨2⟩] ∧ diamond.graph.children ⟨1⟩ = [⟨3⟩] ∧
      diamond.graph.children ⟨2⟩ = [⟨3⟩, ⟨3⟩] ∧ diamond.graph.children ⟨3⟩ = [] := by
  decide

theorem grounded_diamond :
    diamond.graph.Grounded ⟨0⟩ ∧ diamond.graph.Grounded ⟨1⟩ ∧ diamond.graph.Grounded ⟨2⟩ ∧
      diamond.graph.Grounded ⟨3⟩ := by
  obtain ⟨h0, h1, h2, h3⟩ := children_diamond
  have g3 : diamond.graph.Grounded ⟨3⟩ := Schedule.Graph.grounded_of_children (by simp [h3])
  have g2 : diamond.graph.Grounded ⟨2⟩ := Schedule.Graph.grounded_of_children (by simp [h2, g3])
  have g1 : diamond.graph.Grounded ⟨1⟩ := Schedule.Graph.grounded_of_children (by simp [h1, g3])
  exact ⟨Schedule.Graph.grounded_of_children (by simp [h0, g1, g2]), g1, g2, g3⟩

theorem no_circle_diamond (id : PassId)
    (hid : diamond.graph.Reachable diamond.manager.selected.toList id) :
    ¬ diamond.graph.OnCircle id := by
  obtain ⟨g0, g1, -, -⟩ := grounded_diamond
  exact Schedule.Graph.grounded_iff_no_circle.mp (by simp [selected_diamond, g0, g1]) id hid

theorem plan_diamond :
    (∀ id, diamond.graph.Reachable diamond.manager.selected.toList id →
      ¬ diamond.graph.OnCircle id) ∧
    diamond.plan = .ok [⟨3⟩, ⟨1⟩, ⟨3⟩, ⟨1⟩, ⟨3⟩, ⟨3⟩, ⟨2⟩, ⟨0⟩] := by
  obtain ⟨g0, g1, g2, g3⟩ := grounded_diamond
  obtain ⟨h0, h1, h2, h3⟩ := children_diamond
  have hplan := (plan_unfolding diamond no_circle_diamond).2
  refine ⟨no_circle_diamond, hplan.trans ?_⟩
  have hlimit : diamond.manager.settings.scheduleLimit = 8 := rfl
  simp [selected_diamond, hlimit, Schedule.Graph.unfolding_eq, g0, g1, g2, g3, h0, h1, h2, h3]

end Site

end PassPipeline
