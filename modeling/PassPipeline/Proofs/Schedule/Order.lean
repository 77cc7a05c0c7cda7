import PassPipeline.Proofs.Schedule.Circles

/-!
# The order of a schedule

A list of passes is *ordered* if, wherever a pass stands in it, each of its children stands
before that place.  A pass that runs several times has its children before each of its
runs, and not merely before the last one.  Unfoldings are ordered, and so is what they are
strung together to, hence every schedule (`ordered_build`).
-/

namespace PassPipeline.Schedule

open Relation

namespace Graph

variable {graph : Graph}

/-- Wherever a pass stands in the list, its children stand before. -/
inductive Ordered (graph : Graph) : List PassId → Prop
  | nil : Ordered graph []
  | snoc {before : List PassId} {id : PassId} (hbefore : Ordered graph before)
      (hchildren : ∀ child ∈ graph.children id, child ∈ before) :
      Ordered graph (before ++ [id])

theorem Ordered.append {first second : List PassId} (hfirst : graph.Ordered first)
    (hsecond : graph.Ordered second) : graph.Ordered (first ++ second) := by
  induction hsecond with
  | nil => rwa [List.append_nil]
  | snoc _ hchildren ih =>
      rw [← List.append_assoc]
      exact ih.snoc fun child hchild => List.mem_append_right first (hchildren child hchild)

theorem ordered_flatMap {ids : List PassId} {lists : PassId → List PassId}
    (hlists : ∀ id ∈ ids, graph.Ordered (lists id)) : graph.Ordered (ids.flatMap lists) := by
  induction ids with
  | nil => exact .nil
  | cons id rest ih =>
      rw [List.flatMap_cons]
      exact (hlists id List.mem_cons_self).append
        (ih fun other hother => hlists other (List.mem_cons_of_mem id hother))

theorem Ordered.child_earlier {list : List PassId} (hlist : graph.Ordered list) {slot : Nat}
    {id child : PassId} (hid : list[slot]? = some id) (hchild : child ∈ graph.children id) :
    ∃ earlier < slot, list[earlier]? = some child := by
  induction hlist with
  | nil => cases hid
  | @snoc before last hbefore hchildren ih =>
      by_cases hslot : slot < before.length
      · rw [List.getElem?_append_left hslot] at hid
        obtain ⟨earlier, hearlier, hfound⟩ := ih hid
        refine ⟨earlier, hearlier, ?_⟩
        rw [List.getElem?_append_left (by omega), hfound]
      · -- The place is that of the last pass, whose children stand in the rest of the list.
        rw [List.getElem?_append_right (by omega), List.getElem?_singleton] at hid
        split at hid
        · cases hid
          obtain ⟨earlier, hearlier, hfound⟩ := List.mem_iff_getElem.mp (hchildren child hchild)
          refine ⟨earlier, by omega, ?_⟩
          rw [List.getElem?_append_left hearlier, List.getElem?_eq_getElem hearlier, hfound]
        · cases hid

/-- In an ordered list, all that a pass leads to stands before it. -/
theorem Ordered.below_earlier {list : List PassId} (hlist : graph.Ordered list) {slot : Nat}
    {id below : PassId} (hid : list[slot]? = some id) (hbelow : TransGen graph.Leads id below) :
    ∃ earlier < slot, list[earlier]? = some below := by
  induction hbelow with
  | single hchild => exact hlist.child_earlier hid hchild
  | tail _ hchild ih =>
      obtain ⟨between, hbetween, hfound⟩ := ih
      obtain ⟨earlier, hearlier, hbelow⟩ := hlist.child_earlier hfound hchild
      exact ⟨earlier, by omega, hbelow⟩

/-! ## Unfoldings and schedules -/

theorem mem_unfolding {id : PassId} (hid : graph.Grounded id) : id ∈ graph.unfolding id := by
  rw [unfolding_eq hid]
  exact List.mem_append_right _ (List.mem_singleton_self id)

theorem ordered_unfolding {id : PassId} (hid : graph.Grounded id) :
    graph.Ordered (graph.unfolding id) := by
  induction hid with
  | intro id hchildren ih =>
      rw [unfolding_eq (grounded_of_children hchildren)]
      refine (ordered_flatMap ih).snoc fun child hchild => ?_
      exact List.mem_flatMap.mpr ⟨child, hchild, mem_unfolding (hchildren child hchild)⟩

/-- There is a schedule only if the selected passes are grounded, and then it is made up of
their unfoldings. -/
theorem build_eq_ok {limit : Nat} {selected schedule : List PassId}
    (hbuild : build graph limit selected = .ok schedule) :
    (∀ start ∈ selected, graph.Grounded start) ∧
      schedule = selected.reverse.flatMap graph.unfolding := by
  have hwithin : (graph.tours selected).within limit = .ok schedule := by
    rw [← build_eq_within, hbuild]
  have hgrounded : ∀ start ∈ selected, graph.Grounded start := by
    rcases (graph.tours selected).within_cases limit with
      hfull | ⟨error, -, hrefused⟩ | ⟨hcomplete, -⟩
    · cases hfull.symm.trans hwithin
    · cases hrefused.symm.trans hwithin
    · exact grounded_of_tours hcomplete
  refine ⟨hgrounded, ?_⟩
  rw [build_of_grounded limit hgrounded] at hbuild
  split at hbuild
  · exact (Except.ok.inj hbuild).symm
  · cases hbuild

theorem ordered_build {limit : Nat} {selected schedule : List PassId}
    (hbuild : build graph limit selected = .ok schedule) : graph.Ordered schedule := by
  obtain ⟨hgrounded, rfl⟩ := build_eq_ok hbuild
  exact ordered_flatMap fun start hstart =>
    ordered_unfolding (hgrounded start (List.mem_reverse.mp hstart))

end Graph

end PassPipeline.Schedule
