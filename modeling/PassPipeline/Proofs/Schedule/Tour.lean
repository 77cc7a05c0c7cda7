import PassPipeline.Proofs.Schedule.Paths

/-!
# The search as a tour of the dependencies

A search keeps one stack for all that it has still to visit, and finds the passes above a
slot by following links from slot to slot.  A *tour* does the same without either: it
visits a pass, knowing the passes above it, and then makes a tour of each child, the last
child first, until one of them is refused because it stands above itself already.  A tour
does not know of a limit and always comes to an end, because what stands above a pass
grows with every step down and there are finitely many identities.

The main statement is `build_eq_within`: a schedule is built exactly as the tours of the
selected passes, one after the other, say, unless they need more slots than the limit
allows.  It rests on `Search.makes_tour`: from any state of the search, the entry on top
of the stack is worked off as its tour, and then the search goes on with the rest of the
stack and with the room that is left.
-/

namespace PassPipeline.Schedule

/-- What is seen on the way through the dependencies. -/
structure Tour where
  /-- The visited passes in order. -/
  visits : List PassId := []
  /-- The refusal that ended the tour, if one did. -/
  refusal : Option PassError := none

namespace Tour

/-- A tour and, if it is not refused, another one. -/
def followedBy (first second : Tour) : Tour :=
  match first.refusal with
  | some _ => first
  | none => { visits := first.visits ++ second.visits, refusal := second.refusal }

/-- Tours made one after the other. -/
def sequence (tours : List Tour) : Tour := tours.foldr followedBy {}

/-- Goes on after a tour with the room that it has left, if it has left any. -/
def proceed {α : Type} (tour : Tour) (limit room : Nat) (next : Nat → Except PassError α) :
    Except PassError α :=
  if room < tour.visits.length then .error (.scheduleLimitExceeded limit)
  else
    match tour.refusal with
    | some error => .error error
    | none => next (room - tour.visits.length)

/-- The schedule that a tour amounts to, if there is room for all its visits. -/
def within (tour : Tour) (limit : Nat) : Except PassError (List PassId) :=
  tour.proceed limit limit fun _ => .ok tour.visits.reverse

end Tour

/-- A path grows by passes that are not on it, so what is off the path gets less. -/
theorem ncard_off_lt {path : List PassId} {id : PassId} (hid : id ∉ path) :
    {other | other ∉ id :: path}.ncard < {other | other ∉ path}.ncard := by
  refine Set.ncard_lt_ncard ?_
  refine Set.ssubset_iff_of_subset (fun other hother => ?_) |>.mpr ⟨id, hid, by simp⟩
  exact fun hmem => hother (List.mem_cons_of_mem id hmem)

/-- The tour of a pass below the listed ones, of which the first is the nearest. -/
def Graph.tour (graph : Graph) (path : List PassId) (id : PassId) : Tour :=
  match _hclosing : (graph.children id).find? ((id :: path).contains ·) with
  | some child =>
    { visits := [id], refusal := some (graph.refuse (circle (id :: path) child)) }
  | none =>
    Tour.followedBy { visits := [id] } <| .sequence <|
      (graph.children id).reverse.attach.map fun child => graph.tour (id :: path) child.1
termination_by {other | other ∉ id :: path}.ncard
decreasing_by
  refine ncard_off_lt fun hmem => ?_
  have hoff := List.find?_eq_none.mp _hclosing child.1 (List.mem_reverse.mp child.2)
  simp [hmem] at hoff

/-- The tours of several passes that have none above them. -/
def Graph.tours (graph : Graph) (selected : List PassId) : Tour :=
  .sequence (selected.map (graph.tour []))

/-! ## Putting tours together -/

theorem Tour.proceed_empty {α : Type} (limit room : Nat) (next : Nat → Except PassError α) :
    ({} : Tour).proceed limit room next = next room := rfl

theorem Tour.proceed_congr {α : Type} {tour : Tour} {limit room : Nat}
    {next other : Nat → Except PassError α}
    (hnext : tour.refusal = none →
      next (room - tour.visits.length) = other (room - tour.visits.length)) :
    tour.proceed limit room next = tour.proceed limit room other := by
  unfold proceed
  cases hrefusal : tour.refusal with
  | some error => rfl
  | none => simp only [hnext hrefusal]

/-- What leaves refusals as they are can as well be done after the tour. -/
theorem Tour.apply_proceed {α β : Type} (tour : Tour) (limit room : Nat)
    (next : Nat → Except PassError α) (change : Except PassError α → Except PassError β)
    (hchange : ∀ error, change (.error error) = .error error) :
    change (tour.proceed limit room next) =
      tour.proceed limit room fun left => change (next left) := by
  unfold proceed
  split
  · exact hchange _
  · cases tour.refusal with
    | some error => exact hchange error
    | none => rfl

theorem Tour.proceed_followedBy {α : Type} (first second : Tour) (limit room : Nat)
    (next : Nat → Except PassError α) :
    (first.followedBy second).proceed limit room next =
      first.proceed limit room fun left => second.proceed limit left next := by
  unfold followedBy
  cases hrefusal : first.refusal with
  | some error => simp [proceed, hrefusal]
  | none =>
      unfold proceed
      simp only [hrefusal, List.length_append]
      by_cases hroom : room < first.visits.length
      · rw [if_pos hroom, if_pos (by omega)]
      · rw [if_neg hroom, Nat.sub_sub]
        by_cases hmore : room < first.visits.length + second.visits.length
        · rw [if_pos hmore, if_pos (by omega)]
        · rw [if_neg hmore, if_neg (by omega)]

theorem Tour.refusal_followedBy {first second : Tour} :
    (first.followedBy second).refusal = none ↔ first.refusal = none ∧ second.refusal = none := by
  unfold followedBy
  cases hrefusal : first.refusal <;> simp [hrefusal]

theorem Tour.visits_followedBy {first second : Tour} (hfirst : first.refusal = none) :
    (first.followedBy second).visits = first.visits ++ second.visits := by
  simp [followedBy, hfirst]

theorem Tour.sequence_cons (first : Tour) (rest : List Tour) :
    sequence (first :: rest) = first.followedBy (sequence rest) := rfl

theorem Tour.refusal_sequence {tours : List Tour} :
    (sequence tours).refusal = none ↔ ∀ tour ∈ tours, tour.refusal = none := by
  induction tours with
  | nil => simp [sequence]
  | cons first rest ih => rw [sequence_cons, refusal_followedBy, ih, List.forall_mem_cons]

/-! ## The tour of one pass -/

variable {graph : Graph}

theorem tour_of_closing {path : List PassId} {id child : PassId}
    (hclosing : (graph.children id).find? ((id :: path).contains ·) = some child) :
    graph.tour path id =
      { visits := [id], refusal := some (graph.refuse (circle (id :: path) child)) } := by
  rw [Graph.tour]
  split
  · next found hfound => rw [hclosing] at hfound; cases hfound; rfl
  · next hopen => rw [hclosing] at hopen; cases hopen

theorem tour_of_open {path : List PassId} {id : PassId}
    (hopen : (graph.children id).find? ((id :: path).contains ·) = none) :
    graph.tour path id =
      Tour.followedBy { visits := [id] }
        (.sequence ((graph.children id).reverse.map (graph.tour (id :: path)))) := by
  rw [Graph.tour]
  split
  · next found hfound => rw [hopen] at hfound; cases hfound
  · rw [List.attach_map_val]

/-! ## Paths from slot to slot -/

/-- The passes above a slot whose parent is given, the nearest first. -/
def above (slots : Array Slot) : Option Nat → List PassId
  | none => []
  | some parent => path slots parent

/-- Later slots do not change the path of an earlier one. -/
theorem path_append (slots added : Array Slot) {slot : Nat} (hslot : slot < slots.size) :
    path (slots ++ added) slot = path slots slot := by
  induction slot using Nat.strong_induction_on with
  | _ slot ih =>
      rw [path, path, Array.getElem?_append_left hslot]
      split
      · rfl
      · next visit hvisit =>
        split
        · rfl
        · next parent hparent =>
          split
          · next hlt => rw [ih parent hlt (by omega)]
          · rfl

theorem above_append (slots added : Array Slot) {parent : Option Nat}
    (hparent : ∀ slot ∈ parent, slot < slots.size) :
    above (slots ++ added) parent = above slots parent := by
  cases parent with
  | none => rfl
  | some slot => exact path_append slots added (hparent slot rfl)

/-- The path of a new slot is its pass and what stands above it. -/
theorem path_push (slots : Array Slot) (next : Slot)
    (hparent : ∀ slot ∈ next.parent, slot < slots.size) :
    path (slots.push next) slots.size = next.id :: above slots next.parent := by
  obtain ⟨id, parent⟩ := next
  rw [path, Array.getElem?_push_size]
  cases parent with
  | none => rfl
  | some parent =>
      have hlt : parent < slots.size := hparent parent rfl
      simp only [above, if_pos hlt]
      rw [Array.push_eq_append, path_append slots _ hlt]

/-! ## The search works off tours -/

namespace Search

theorem explore_nil (limit room : Nat) (slots : Array Slot) :
    explore graph limit room { slots } = .ok { slots } := by
  unfold explore
  rfl

/-- From a state whose next entries are the listed passes below `path`, the search makes
the tour, whatever lies below these entries on the stack, and goes on with that. -/
def Makes (graph : Graph) (limit : Nat) (path ids : List PassId) (tour : Tour) : Prop :=
  ∀ (slots : Array Slot) (parent : Option Nat), above slots parent = path →
    (∀ slot ∈ parent, slot < slots.size) →
      ∃ added : Array Slot, (tour.refusal = none → added.toList.map (·.id) = tour.visits) ∧
        ∀ (rest : List Slot) (room : Nat),
          explore graph limit room { slots, stack := ids.map (⟨·, parent⟩) ++ rest } =
            tour.proceed limit room fun left =>
              explore graph limit left { slots := slots ++ added, stack := rest }

theorem makes_nil {limit : Nat} {path : List PassId} : Makes graph limit path [] {} := by
  intro slots parent hpath hparent
  exact ⟨#[], fun _ => rfl, fun rest room => by simp [Tour.proceed_empty]⟩

theorem Makes.cons {limit : Nat} {path ids : List PassId} {id : PassId} {first others : Tour}
    (hfirst : Makes graph limit path [id] first) (hothers : Makes graph limit path ids others) :
    Makes graph limit path (id :: ids) (first.followedBy others) := by
  intro slots parent hpath hparent
  -- The other passes are visited below the same slot, which the first tour leaves as it is.
  obtain ⟨added, hadded, hexplore⟩ := hfirst slots parent hpath hparent
  obtain ⟨more, hmore, hgoOn⟩ := hothers (slots ++ added) parent
    (by rw [above_append slots added hparent, hpath])
    (fun slot hslot => by rw [Array.size_append]; have := hparent slot hslot; omega)
  refine ⟨added ++ more, ?_, ?_⟩
  · intro hrefusal
    obtain ⟨hfirstRefusal, hothersRefusal⟩ := Tour.refusal_followedBy.mp hrefusal
    rw [Tour.visits_followedBy hfirstRefusal, ← hadded hfirstRefusal, ← hmore hothersRefusal]
    simp
  · intro rest room
    have hstep := hexplore (ids.map (⟨·, parent⟩) ++ rest) room
    rw [Tour.proceed_followedBy, List.map_cons, List.cons_append]
    refine hstep.trans ?_
    simp only [hgoOn, Array.append_assoc]

theorem makes_sequence {limit : Nat} {path ids : List PassId}
    (hids : ∀ id ∈ ids, Makes graph limit path [id] (graph.tour path id)) :
    Makes graph limit path ids (.sequence (ids.map (graph.tour path))) := by
  induction ids with
  | nil => exact makes_nil
  | cons id ids ih =>
      exact (hids id List.mem_cons_self).cons
        (ih fun other hother => hids other (List.mem_cons_of_mem id hother))

/-- One visit: the pass takes a slot, if there is room for it, and its children go on the
stack, unless one of them closes a circle. -/
theorem explore_visit (limit room : Nat) (slots : Array Slot) (next : Slot) (rest : List Slot)
    (hparent : ∀ slot ∈ next.parent, slot < slots.size) :
    explore graph limit room { slots, stack := next :: rest } =
      match room with
      | 0 => .error (.scheduleLimitExceeded limit)
      | room + 1 =>
        match (graph.children next.id).find?
          ((next.id :: above slots next.parent).contains ·) with
        | some child =>
          .error (graph.refuse (circle (next.id :: above slots next.parent) child))
        | none =>
          explore graph limit room
            { slots := slots.push next
              stack := (graph.children next.id).reverse.map (⟨·, some slots.size⟩) ++ rest } := by
  cases room with
  | zero => rfl
  | succ room =>
      rw [explore]
      simp only [visit, path_push slots next hparent, List.map_reverse]
      cases (graph.children next.id).find? ((next.id :: above slots next.parent).contains ·) with
      | some child => rfl
      | none => rfl

theorem makes_tour (graph : Graph) (limit : Nat) (path : List PassId) (id : PassId) :
    Makes graph limit path [id] (graph.tour path id) := by
  induction path, id using Graph.tour.induct graph with
  | case1 path id child hclosing =>
      -- The visit needs room for its slot even though it is refused then.
      intro slots parent hpath hparent
      rw [tour_of_closing hclosing]
      refine ⟨#[], nofun, fun rest room => ?_⟩
      refine (explore_visit limit room slots ⟨id, parent⟩ rest hparent).trans ?_
      cases room with
      | zero => rfl
      | succ room =>
          simp only [hpath, hclosing, Tour.proceed]
          rw [if_neg (by simp)]
  | case2 path id hopen ih =>
      -- After the visit the children lie on the stack, below the new slot.
      intro slots parent hpath hparent
      have hchildren : ∀ child ∈ (graph.children id).reverse,
          Makes graph limit (id :: path) [child] (graph.tour (id :: path) child) :=
        fun child hchild => ih ⟨child, hchild⟩
      obtain ⟨added, hadded, hexplore⟩ := makes_sequence hchildren
        (slots.push ⟨id, parent⟩) (some slots.size)
        (by rw [above, path_push slots ⟨id, parent⟩ hparent, hpath]) (by simp)
      rw [tour_of_open hopen]
      refine ⟨#[⟨id, parent⟩] ++ added, ?_, ?_⟩
      · intro hrefusal
        have hbelow := (Tour.refusal_followedBy.mp hrefusal).2
        rw [Tour.visits_followedBy rfl, ← hadded hbelow]
        simp
      · intro rest room
        refine (explore_visit limit room slots ⟨id, parent⟩ rest hparent).trans ?_
        cases room with
        | zero => rfl
        | succ room =>
            simp only [hpath, hopen, hexplore]
            rw [Tour.proceed_followedBy]
            simp [Tour.proceed, ← Array.append_assoc]

end Search

/-! ## The schedule -/

theorem searchAll_tours (graph : Graph) (limit : Nat) (selected : List PassId)
    (slots : Array Slot) :
    ∃ added : Array Slot,
      ((graph.tours selected).refusal = none →
        added.toList.map (·.id) = (graph.tours selected).visits) ∧
      selected.foldlM (fun search id =>
          ({ search with stack := [⟨id, none⟩] } : Search).explore graph limit
            (limit - search.slots.size)) { slots } =
        (graph.tours selected).proceed limit (limit - slots.size) fun _ =>
          .ok { slots := slots ++ added } := by
  induction selected generalizing slots with
  | nil => exact ⟨#[], fun _ => rfl, by simp [Graph.tours, Tour.sequence, Tour.proceed]; rfl⟩
  | cons start rest ih =>
      obtain ⟨added, hadded, hexplore⟩ := Search.makes_tour graph limit [] start slots none rfl
        (by simp)
      obtain ⟨more, hmore, hrest⟩ := ih (slots ++ added)
      refine ⟨added ++ more, ?_, ?_⟩
      · intro hrefusal
        obtain ⟨hfirst, hothers⟩ := Tour.refusal_followedBy.mp hrefusal
        rw [Graph.tours, List.map_cons, Tour.sequence_cons, Tour.visits_followedBy hfirst,
          ← hadded hfirst, ← Graph.tours, ← hmore hothers]
        simp
      · have hstart : Search.explore graph limit (limit - slots.size)
              { slots, stack := [⟨start, none⟩] } =
            (graph.tour [] start).proceed limit (limit - slots.size) fun _ =>
              .ok { slots := slots ++ added } := by
          refine (hexplore [] (limit - slots.size)).trans ?_
          simp only [Search.explore_nil]
        rw [List.foldlM_cons, hstart, Graph.tours, List.map_cons, Tour.sequence_cons,
          Tour.proceed_followedBy]
        refine (Tour.apply_proceed _ _ _ _ (· >>= _) fun _ => rfl).trans ?_
        -- The next tour has the room that the slots taken so far have left.
        refine Tour.proceed_congr fun hrefusal => ?_
        have hsize : added.size = (graph.tour [] start).visits.length := by
          rw [← hadded hrefusal, List.length_map, Array.length_toList]
        refine hrest.trans ?_
        rw [Array.size_append, hsize, Nat.sub_sub, Array.append_assoc, Graph.tours]

/-- A schedule is what the tours of the selected passes amount to, if there is room for
them. -/
theorem build_eq_within (graph : Graph) (limit : Nat) (selected : List PassId) :
    build graph limit selected = (graph.tours selected).within limit := by
  obtain ⟨added, hadded, hsearch⟩ := searchAll_tours graph limit selected #[]
  let schedule (search : Search) : List PassId := (search.slots.toList.map (·.id)).reverse
  calc
    build graph limit selected =
        ((graph.tours selected).proceed limit limit fun _ =>
          .ok ({ slots := #[] ++ added } : Search)).map schedule :=
      congrArg (Except.map schedule) hsearch
    _ = (graph.tours selected).proceed limit limit fun _ =>
          .ok (schedule { slots := #[] ++ added }) :=
      Tour.apply_proceed _ _ _ _ (Except.map schedule) fun _ => rfl
    _ = (graph.tours selected).within limit := by
      refine Tour.proceed_congr fun hrefusal => ?_
      simp [schedule, hadded hrefusal]

end PassPipeline.Schedule
