import PassPipeline.PassError

/-!
# Schedules

A schedule lists the passes to execute so that whatever has to run before a pass
stands before it.  It is built backwards.  From each selected pass a depth-first
search visits the pass, then what has to run before it, and so on; each visit takes
one slot, and the reversed list of slots is the schedule.  A pass that is reached
along several paths is visited, and later executed, once for each.

Every slot knows the slot that led to it, so the slots form a forest.  A child that
stands already on the path from the root of its tree to the slot in hand closes a
circle, and the search stops.  The path is followed through the links from slot
to slot; links lead to earlier slots, so it ends.
-/

namespace PassPipeline.Schedule

/-- One visit of the search. -/
structure Slot where
  id : PassId
  /-- The slot whose pass led here, unless the pass was selected. -/
  parent : Option Nat
  deriving DecidableEq, Repr

/-- The state of the search. -/
structure Search where
  slots : Array Slot := #[]
  /-- The visits still to make, the next one first. -/
  stack : List Slot := []
  deriving Repr

/-- What a search goes through. -/
structure Graph where
  /-- The passes that have to run before a pass, in order. -/
  children : PassId → List PassId
  name : PassId → Except PassError String

/-- The passes on the path from a slot to the root of its tree. -/
def path (slots : Array Slot) (slot : Nat) : List PassId :=
  match slots[slot]? with
  | none => []
  | some visit =>
    match visit.parent with
    | none => [visit.id]
    | some parent => if parent < slot then visit.id :: path slots parent else [visit.id]
termination_by slot

/-- The circle that a child closes with a path that it stands on: from the child
down the path to its lower end, and back to the child. -/
def circle (path : List PassId) (child : PassId) : List PassId :=
  child :: (path.takeWhile (· ≠ child)).reverse ++ [child]

/-- The refusal of a circle.  Its passes are named in order, and the first without a
name is reported instead. -/
def Graph.refuse (graph : Graph) (circle : List PassId) : PassError :=
  match circle.mapM graph.name with
  | .ok names => .cyclicDependency names
  | .error error => error

namespace Search

/-- Visits a pass: takes a slot for it and puts its children on the stack, the last
one on top. -/
def visit (graph : Graph) (search : Search) (next : Slot) (rest : List Slot) :
    Except PassError Search :=
  let slot := search.slots.size
  let slots := search.slots.push next
  let ancestry := path slots slot
  match (graph.children next.id).find? (ancestry.contains ·) with
  | some child => .error (graph.refuse (circle ancestry child))
  | none =>
    .ok { slots, stack := ((graph.children next.id).map (⟨·, some slot⟩)).reverse ++ rest }

/-- Visits everything on the stack, as long as there is room for slots. -/
def explore (graph : Graph) (limit : Nat) : Nat → Search → Except PassError Search
  | room, search =>
    match search.stack with
    | [] => .ok search
    | next :: rest =>
      match room with
      | 0 => .error (.scheduleLimitExceeded limit)
      | room + 1 =>
        match search.visit graph next rest with
        | .error error => .error error
        | .ok search => search.explore graph limit room

end Search

/-- Searches from each of the selected passes in turn. -/
def searchAll (graph : Graph) (limit : Nat) (selected : List PassId) : Except PassError Search :=
  selected.foldlM
    (fun search id =>
      ({ search with stack := [⟨id, none⟩] } : Search).explore graph limit
        (limit - search.slots.size))
    {}

/-- The schedule of the selected passes. -/
def build (graph : Graph) (limit : Nat) (selected : List PassId) :
    Except PassError (List PassId) :=
  (searchAll graph limit selected).map fun search =>
    (search.slots.toList.map (·.id)).reverse

end PassPipeline.Schedule
