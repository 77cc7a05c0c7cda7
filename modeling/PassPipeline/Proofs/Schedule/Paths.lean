import Mathlib.Data.Set.Card
import Mathlib.Logic.Relation
import PassPipeline.Schedule

/-!
# Paths through the dependencies

A pass leads to each of its children, the passes that have to run before it.  What a
search can visit is what the selected passes reach along such steps, and what stops it is
a circle, a path that comes back to where it began.

There are finitely many identities, so a path without end repeats itself.  A pass is
*grounded* if no path without end begins at it; `grounded_of_no_circle` says that this is
so as soon as no circle can be reached, and `Grounded.not_onCircle` is the converse.
Groundedness is well-founded accessibility, so it comes with the induction along which
everything about acyclic dependencies is proved.
-/

namespace PassPipeline

instance : Finite PassId :=
  Finite.of_injective (fun id : PassId => id.raw.toFin) fun first second hsame => by
    cases first
    cases second
    simpa [UInt32.toFin_inj] using hsame

namespace Schedule

open Relation

namespace Graph

variable (graph : Graph)

/-- A pass leads to each of its children. -/
def Leads (id child : PassId) : Prop := child ∈ graph.children id

/-- One of the selected passes reaches the pass, in any number of steps. -/
def Reachable (selected : List PassId) (id : PassId) : Prop :=
  ∃ start ∈ selected, ReflTransGen graph.Leads start id

/-- The pass leads back to itself, in at least one step. -/
def OnCircle (id : PassId) : Prop := TransGen graph.Leads id id

/-- The listed passes form a circle: each leads to the next one, and the last is the
first again, but for which they are pairwise different. -/
structure Circle (passes : List PassId) : Prop where
  two_le : 2 ≤ passes.length
  closed : passes.getLast? = passes.head?
  distinct : passes.dropLast.Nodup
  linked : passes.IsChain graph.Leads

/-- No path without end begins at the pass. -/
def Grounded (id : PassId) : Prop := Acc (fun child id => child ∈ graph.children id) id

variable {graph}

/-! ## Reachability -/

theorem reachable_of_mem {selected : List PassId} {id : PassId} (hid : id ∈ selected) :
    graph.Reachable selected id :=
  ⟨id, hid, .refl⟩

theorem Reachable.trans {selected : List PassId} {id below : PassId}
    (hid : graph.Reachable selected id) (hbelow : ReflTransGen graph.Leads id below) :
    graph.Reachable selected below := by
  obtain ⟨start, hstart, hpath⟩ := hid
  exact ⟨start, hstart, hpath.trans hbelow⟩

/-! ## Groundedness -/

theorem Grounded.child {id child : PassId} (hid : graph.Grounded id)
    (hchild : child ∈ graph.children id) : graph.Grounded child :=
  Acc.inv hid hchild

theorem grounded_of_children {id : PassId}
    (hchildren : ∀ child ∈ graph.children id, graph.Grounded child) : graph.Grounded id :=
  Acc.intro id hchildren

theorem Grounded.reaches {id below : PassId} (hid : graph.Grounded id)
    (hbelow : ReflTransGen graph.Leads id below) : graph.Grounded below := by
  induction hbelow with
  | refl => exact hid
  | tail _ hstep ih => exact ih.child hstep

theorem Grounded.not_onCircle {id : PassId} (hid : graph.Grounded id) : ¬ graph.OnCircle id := by
  induction hid with
  | intro id _ ih =>
      intro hcircle
      obtain ⟨child, hchild, hback⟩ := TransGen.head'_iff.mp hcircle
      exact ih child hchild (TransGen.tail' hback hchild)

/-- Every step leaves fewer passes to reach, unless it can be taken back. -/
theorem grounded_of_no_circle {id : PassId}
    (hcircle : ∀ below, ReflTransGen graph.Leads id below → ¬ graph.OnCircle below) :
    graph.Grounded id := by
  induction hcount : {below | ReflTransGen graph.Leads id below}.ncard
      using Nat.strong_induction_on generalizing id with
  | _ count ih =>
      refine grounded_of_children fun child hchild => ?_
      have hbelow : {below | ReflTransGen graph.Leads child below} ⊂
          {below | ReflTransGen graph.Leads id below} := by
        refine Set.ssubset_iff_of_subset (fun below hpath => hpath.head hchild) |>.mpr
          ⟨id, .refl, fun hback => hcircle id .refl (TransGen.head' hchild hback)⟩
      refine ih _ ?_ (fun below hpath => hcircle below (hpath.head hchild)) rfl
      rw [← hcount]
      exact Set.ncard_lt_ncard hbelow

/-- Nothing selected reaches a circle exactly if everything selected is grounded. -/
theorem grounded_iff_no_circle {selected : List PassId} :
    (∀ start ∈ selected, graph.Grounded start) ↔
      ∀ id, graph.Reachable selected id → ¬ graph.OnCircle id := by
  constructor
  · rintro hgrounded id ⟨start, hstart, hpath⟩
    exact ((hgrounded start hstart).reaches hpath).not_onCircle
  · intro hcircle start hstart
    exact grounded_of_no_circle fun below hpath => hcircle below ⟨start, hstart, hpath⟩

end Graph

end Schedule

end PassPipeline
