import PassPipeline.Manager.Run
import PassPipeline.Proofs.Schedule.Moments

/-!
# The links from slot to slot

At every moment of a search the links of the slots make up one tree for each seed that has been
started (`Moment.Linked`).  The entries on the stack refer to slots that were taken long before, so
what makes the next slot fit has to be kept for the entries as well (`Moment.Kept`): an entry is a
child of the slot that it names, it is not on the path of that slot, and the slot belongs to the
tree that is being searched.

With that, whoever follows the links from a slot upwards comes to the root of its tree and through
no other tree (`Moment.Kept.rootPath`), and so does the search when it looks whether a child closes
a circle (`Climbs.exists_scans`).
-/

namespace PassPipeline

namespace Schedule

variable {graph : Graph} {limit : Nat} {selected : List PassId} {slots : Array Slot}
  {moment : Moment}

/-! ## Following links -/

/-- The pass is a child of the one in that slot. -/
def Below (graph : Graph) (slots : Array Slot) (id : PassId) (parent : Nat) : Prop :=
  ∃ visit, slots[parent]? = some visit ∧ id ∈ graph.children visit.id

/-- From a slot the links lead up the chain, which ends at a slot without a link. -/
inductive Climbs (slots : Array Slot) : Nat → List Nat → Prop
  | root {slot : Nat} {id : PassId} (hslot : slots[slot]? = some ⟨id, none⟩) :
      Climbs slots slot [slot]
  | link {slot parent : Nat} {id : PassId} {chain : List Nat}
      (hslot : slots[slot]? = some ⟨id, some parent⟩) (hparent : Climbs slots parent chain) :
      Climbs slots slot (slot :: chain)

/-- Whoever looks for a child from a slot upwards looks at the listed slots, and ends where the
child is found or where the links end. -/
inductive Scans (slots : Array Slot) (child : PassId) : Nat → List Nat → Prop
  | found {slot : Nat} {parent : Option Nat} (hslot : slots[slot]? = some ⟨child, parent⟩) :
      Scans slots child slot [slot]
  | ended {slot : Nat} {id : PassId} (hslot : slots[slot]? = some ⟨id, none⟩)
      (hother : id ≠ child) : Scans slots child slot [slot]
  | onward {slot parent : Nat} {id : PassId} {seen : List Nat}
      (hslot : slots[slot]? = some ⟨id, some parent⟩) (hother : id ≠ child)
      (hparent : Scans slots child parent seen) : Scans slots child slot (slot :: seen)

/-- The passes in the listed slots. -/
def passesAt (slots : Array Slot) (chain : List Nat) : List PassId :=
  chain.filterMap fun slot => slots[slot]?.map (·.id)

theorem passesAt_cons {slot : Nat} {visit : Slot} (hslot : slots[slot]? = some visit)
    (chain : List Nat) : passesAt slots (slot :: chain) = visit.id :: passesAt slots chain := by
  rw [passesAt, List.filterMap_cons, hslot]
  rfl

theorem path_root {slot : Nat} {id : PassId} (hslot : slots[slot]? = some ⟨id, none⟩) :
    path slots slot = [id] := by
  rw [path, hslot]

theorem path_link {slot parent : Nat} {id : PassId}
    (hslot : slots[slot]? = some ⟨id, some parent⟩) (hparent : parent < slot) :
    path slots slot = id :: path slots parent := by
  rw [path, hslot]
  simp only [if_pos hparent]

/-- A search for a child sees the chain as far as the child, if it stands there, and all of the
chain if it does not. -/
theorem Climbs.exists_scans {slot : Nat} {chain : List Nat} (hclimbs : Climbs slots slot chain)
    (child : PassId) :
    ∃ seen, Scans slots child slot seen ∧ seen <+: chain ∧
      (child ∉ passesAt slots chain → seen = chain) ∧
      (child ∈ passesAt slots chain →
        passesAt slots seen = (passesAt slots chain).takeWhile (· ≠ child) ++ [child]) := by
  induction hclimbs with
  | @root slot id hslot =>
    have hpasses : passesAt slots [slot] = [id] := passesAt_cons hslot []
    rw [hpasses]
    by_cases hchild : id = child
    · subst hchild
      exact ⟨[slot], .found hslot, List.prefix_rfl, fun _ => rfl, fun _ => by simp [hpasses]⟩
    · exact ⟨[slot], .ended hslot hchild, List.prefix_rfl, fun _ => rfl,
        fun hmem => absurd (List.mem_singleton.mp hmem).symm hchild⟩
  | @link slot parent id chain hslot _ ih =>
    rw [passesAt_cons hslot]
    by_cases hchild : id = child
    · subst hchild
      have hpasses : passesAt slots [slot] = [id] := passesAt_cons hslot []
      refine ⟨[slot], .found hslot, by simp, fun hoff => ?_, fun _ => by simp [hpasses]⟩
      exact absurd List.mem_cons_self hoff
    · -- The pass stands further up if it stands on the chain at all.
      obtain ⟨seen, hscans, hprefix, hall, hpart⟩ := ih
      refine ⟨slot :: seen, .onward hslot hchild hscans,
        (List.prefix_cons_inj slot).mpr hprefix, fun hoff => ?_, fun hon => ?_⟩
      · rw [hall fun hmem => hoff (List.mem_cons_of_mem id hmem)]
      · have hrest := hpart ((List.mem_cons.mp hon).resolve_left (Ne.symm hchild))
        rw [passesAt_cons hslot, hrest]
        simp [hchild]

namespace Moment

/-! ## What holds at every moment -/

/-- The chain is the way from a slot to the root of its tree. -/
structure RootPath (moment : Moment) (slot : Nat) (chain : List Nat) : Prop where
  climbs : Climbs moment.slots slot chain
  passes : path moment.slots slot = passesAt moment.slots chain
  distinct : (path moment.slots slot).Nodup
  /-- It ends where the latest seed was started that had been started when the slot was taken,
  and it goes through no other tree. -/
  ends : ∃ seed root, chain.getLast? = some root ∧ (seed, root) ∈ moment.begun ∧
    (∀ other start, (other, start) ∈ moment.begun → start ≤ slot → start ≤ root) ∧
    ∀ step ∈ chain, root ≤ step ∧ step ≤ slot

/-- The links of the slots make up a tree for each seed that has been started. -/
structure Linked (graph : Graph) (selected : List PassId) (moment : Moment) : Prop where
  seeds : moment.begun.map Prod.fst <+: selected
  /-- There is one link, or the lack of one, for each pass. -/
  columns : moment.schedule.size = moment.parents.size
  link : ∀ slot id parent, moment.slots[slot]? = some ⟨id, some parent⟩ →
    parent < slot ∧ Below graph moment.slots id parent
  root_iff : ∀ slot id, moment.slots[slot]? = some ⟨id, none⟩ ↔
    (id, slot) ∈ moment.begun ∧ slot < moment.slots.size
  entry : ∀ id parent, ⟨id, some parent⟩ ∈ moment.stack →
    parent < moment.slots.size ∧ Below graph moment.slots id parent ∧
      id ∉ path moment.slots parent
  seed : ∀ id, ⟨id, none⟩ ∈ moment.stack →
    moment.stack = [⟨id, none⟩] ∧ (id, moment.slots.size) ∈ moment.begun
  chain : ∀ slot < moment.slots.size, ∃ chain, moment.RootPath slot chain

/-- The search looks at the slots from the latest one upwards for the first child that it has
not looked at yet. -/
structure Looks (moment : Moment) (entry : Slot) (slot : Nat) (chain seen : List Nat) :
    Prop where
  parent : entry.parent = some slot
  latest : slot + 1 = moment.slots.size
  rootPath : moment.RootPath slot chain
  scans : Scans moment.slots entry.id slot seen
  within : seen <+: chain
  /-- It sees all the way to the root unless it comes upon the child. -/
  all : entry.id ∉ path moment.slots slot → seen = chain
  /-- What it has seen when it comes upon the child is the circle that is reported. -/
  circle : entry.id ∈ path moment.slots slot →
    circle (path moment.slots slot) entry.id = (passesAt moment.slots seen).reverse ++ [entry.id]

/-- What is kept from moment to moment, for the slots and for the entries that will take the
next ones. -/
structure Kept (graph : Graph) (selected : List PassId) (moment : Moment) : Prop where
  columns : moment.schedule.size = moment.parents.size
  seeds : moment.begun.map Prod.fst <+: selected
  starts : ∀ {seed start}, (seed, start) ∈ moment.begun → start < moment.slots.size ∨
    (start = moment.slots.size ∧ moment.stack = [⟨seed, none⟩] ∧ moment.pending = [])
  link : ∀ {slot id parent}, moment.slots[slot]? = some ⟨id, some parent⟩ →
    parent < slot ∧ Below graph moment.slots id parent ∧ id ∉ path moment.slots parent
  /-- A link does not lead out of a tree. -/
  tree : ∀ {slot id parent}, moment.slots[slot]? = some ⟨id, some parent⟩ →
    ∀ {seed start}, (seed, start) ∈ moment.begun → start ≤ slot → start ≤ parent
  root_iff : ∀ {slot id}, moment.slots[slot]? = some ⟨id, none⟩ ↔
    (id, slot) ∈ moment.begun ∧ slot < moment.slots.size
  entry : ∀ {id parent}, ⟨id, some parent⟩ ∈ moment.stack →
    Below graph moment.slots id parent ∧ id ∉ path moment.slots parent ∧
      ∀ {seed start}, (seed, start) ∈ moment.begun → start ≤ parent
  seed : ∀ {id}, ⟨id, none⟩ ∈ moment.stack → (id, moment.slots.size) ∈ moment.begun
  pending : ∀ {entry}, entry ∈ moment.pending → ∃ slot, entry.parent = some slot ∧
    slot + 1 = moment.slots.size ∧ Below graph moment.slots entry.id slot

end Moment

theorem Below.lt_size {id : PassId} {parent : Nat} (hbelow : Below graph slots id parent) :
    parent < slots.size := by
  obtain ⟨visit, hvisit, -⟩ := hbelow
  exact (Array.getElem?_eq_some_iff.mp hvisit).1

theorem Below.push {id : PassId} {parent : Nat} (hbelow : Below graph slots id parent)
    (next : Slot) : Below graph (slots.push next) id parent := by
  have hlt := hbelow.lt_size
  obtain ⟨visit, hvisit, hchild⟩ := hbelow
  refine ⟨visit, ?_, hchild⟩
  rw [Array.getElem?_push_lt hlt, ← hvisit, Array.getElem?_eq_getElem hlt]

theorem path_push_of_lt {slot : Nat} (hslot : slot < slots.size) (next : Slot) :
    path (slots.push next) slot = path slots slot := by
  rw [Array.push_eq_append]
  exact path_append slots _ hslot

theorem getElem?_push_cases {slot : Nat} {next visit : Slot}
    (hvisit : (slots.push next)[slot]? = some visit) :
    slots[slot]? = some visit ∨ (slot = slots.size ∧ visit = next) := by
  rw [Array.getElem?_push] at hvisit
  split at hvisit
  · next hslot => exact Or.inr ⟨hslot, (Option.some.inj hvisit).symm⟩
  · exact Or.inl hvisit

namespace Moment.Kept

theorem size_slots (hkept : moment.Kept graph selected) :
    moment.slots.size = moment.schedule.size := by
  rw [slots, Array.size_zipWith, ← hkept.columns, Nat.min_self]

/-- With columns of one length, what is pushed onto both makes up one more slot. -/
theorem slots_take (hkept : moment.Kept graph selected) (next : Slot) (rest : List Slot) :
    (moment.take graph next rest).slots = moment.slots.push next := by
  have hcolumns : moment.schedule.toList.length = moment.parents.toList.length := hkept.columns
  apply Array.toList_inj.mp
  simp [slots, take, List.zipWith_append hcolumns]

theorem start (graph : Graph) (selected : List PassId) : Kept graph selected {} where
  columns := rfl
  seeds := List.nil_prefix
  starts hbegun := by cases hbegun
  link hslot := by simp [slots] at hslot
  tree hslot := by simp [slots] at hslot
  root_iff := by simp [slots]
  entry hentry := by cases hentry
  seed hseed := by cases hseed
  pending hpending := by cases hpending

/-- The slot that is taken next is the root of the new tree. -/
theorem addSeed (hkept : moment.Kept graph selected) {id : PassId} {later : List PassId}
    (hpending : moment.pending = []) (hstack : moment.stack = [])
    (hselected : selected = moment.begun.map Prod.fst ++ id :: later) :
    Kept graph selected { moment with
      stack := [⟨id, none⟩], begun := moment.begun ++ [(id, moment.schedule.size)] } where
  columns := hkept.columns
  seeds := by
    rw [hselected, List.map_append]
    exact (List.prefix_append_right_inj _).mpr (by simp)
  starts {seed start} hbegun := by
    rcases List.mem_append.mp hbegun with hold | hnew
    · -- An earlier seed that had no slot yet would lie on the stack, which is empty.
      rcases hkept.starts hold with hlt | ⟨-, hseed, -⟩
      · exact Or.inl hlt
      · rw [hstack] at hseed
        cases hseed
    · cases List.mem_singleton.mp hnew
      exact Or.inr ⟨hkept.size_slots.symm, rfl, hpending⟩
  link := hkept.link
  tree {slot other parent} hslot seed start hbegun hle := by
    rcases List.mem_append.mp hbegun with hold | hnew
    · exact hkept.tree hslot hold hle
    · cases List.mem_singleton.mp hnew
      have hlt : slot < moment.slots.size := (Array.getElem?_eq_some_iff.mp hslot).1
      have hsize := hkept.size_slots
      omega
  root_iff {slot other} := by
    refine hkept.root_iff.trans ?_
    rw [List.mem_append, List.mem_singleton, Prod.mk.injEq]
    constructor
    · rintro ⟨hold, hlt⟩
      exact ⟨Or.inl hold, hlt⟩
    · rintro ⟨hold | ⟨-, heq⟩, hlt⟩
      · exact ⟨hold, hlt⟩
      · rw [heq, ← hkept.size_slots] at hlt
        exact absurd hlt (Nat.lt_irrefl _)
  entry hentry := by
    cases List.mem_singleton.mp hentry
  seed hseed := by
    cases List.mem_singleton.mp hseed
    have hsize : moment.slots.size = moment.schedule.size := hkept.size_slots
    exact List.mem_append_right _ (List.mem_singleton.mpr (by rw [← hsize]; rfl))
  pending hentry := by
    rw [hpending] at hentry
    cases hentry

/-- The entry on top of the stack fits as the next slot. -/
theorem takeSlot (hkept : moment.Kept graph selected) {next : Slot} {rest : List Slot}
    (hstack : moment.stack = next :: rest) :
    Kept graph selected (moment.take graph next rest) := by
  have htop : next ∈ moment.stack := by
    rw [hstack]
    exact List.mem_cons_self
  have hrest : ∀ {entry}, entry ∈ rest → entry ∈ moment.stack := by
    intro entry hentry
    rw [hstack]
    exact List.mem_cons_of_mem next hentry
  have hslots := hkept.slots_take next rest
  have hsize : (moment.slots.push next).size = moment.slots.size + 1 := Array.size_push ..
  constructor
  case columns => rw [take, Array.size_push, Array.size_push, hkept.columns]
  case seeds => exact hkept.seeds
  case starts =>
    intro seed start hbegun
    rw [hslots, hsize]
    rcases hkept.starts hbegun with hlt | ⟨heq, -, -⟩
    · exact Or.inl (by omega)
    · exact Or.inl (by omega)
  case link =>
    intro slot id parent hslot
    rw [hslots] at hslot ⊢
    rcases getElem?_push_cases hslot with hold | ⟨rfl, rfl⟩
    · obtain ⟨hlt, hbelow, hoff⟩ := hkept.link hold
      exact ⟨hlt, hbelow.push next, by rwa [path_push_of_lt hbelow.lt_size]⟩
    · obtain ⟨hbelow, hoff, -⟩ := hkept.entry htop
      exact ⟨hbelow.lt_size, hbelow.push _, by rwa [path_push_of_lt hbelow.lt_size]⟩
  case tree =>
    intro slot id parent hslot seed start hbegun hle
    rw [hslots] at hslot
    rcases getElem?_push_cases hslot with hold | ⟨rfl, rfl⟩
    · exact hkept.tree hold hbegun hle
    · exact (hkept.entry htop).2.2 hbegun
  case root_iff =>
    intro slot id
    rw [hslots]
    constructor
    · intro hslot
      rcases getElem?_push_cases hslot with hold | ⟨rfl, rfl⟩
      · obtain ⟨hbegun, hlt⟩ := hkept.root_iff.mp hold
        exact ⟨hbegun, by rw [hsize]; omega⟩
      · exact ⟨hkept.seed htop, by rw [hsize]; omega⟩
    · rintro ⟨hbegun, hlt⟩
      rw [Array.getElem?_push]
      split
      · next heq =>
        -- A seed whose slot is the next one lies on the stack alone.
        rcases hkept.starts hbegun with hless | ⟨-, hseed, -⟩
        · omega
        · rw [hstack] at hseed
          rw [(List.cons.inj hseed).1]
      · exact hkept.root_iff.mpr ⟨hbegun, by rw [hsize] at hlt; omega⟩
  case entry =>
    intro id parent hentry
    rw [hslots]
    obtain ⟨hbelow, hoff, hstarts⟩ := hkept.entry (hrest hentry)
    exact ⟨hbelow.push next, by rwa [path_push_of_lt hbelow.lt_size], hstarts⟩
  case seed =>
    intro id hentry
    -- A seed on the stack has nothing above it.
    rcases hkept.starts (hkept.seed (hrest hentry)) with hless | ⟨-, hseed, -⟩
    · exact absurd hless (Nat.lt_irrefl _)
    · rw [hstack] at hseed
      rw [(List.cons.inj hseed).2] at hentry
      cases hentry
  case pending =>
    intro entry hentry
    obtain ⟨child, hchild, rfl⟩ := List.mem_map.mp hentry
    rw [hslots, ← hkept.size_slots]
    exact ⟨moment.slots.size, rfl, hsize.symm, next, Array.getElem?_push_size, hchild⟩

/-- A child of the latest slot fits as an entry, unless it closes a circle. -/
theorem pushChild (hkept : moment.Kept graph selected) {entry : Slot} {more : List Slot}
    (hpending : moment.pending = entry :: more)
    (hoff : entry.id ∉ above moment.slots entry.parent) :
    Kept graph selected { moment with stack := entry :: moment.stack, pending := more } := by
  have hfirst : entry ∈ moment.pending := by
    rw [hpending]
    exact List.mem_cons_self
  -- There are pending children, so every seed that was begun has its slot.
  have hstarted : ∀ {seed start},
      (seed, start) ∈ moment.begun → start < moment.slots.size := by
    intro seed start hbegun
    rcases hkept.starts hbegun with hlt | ⟨-, -, hnone⟩
    · exact hlt
    · rw [hpending] at hnone
      cases hnone
  obtain ⟨slot, hparent, hlatest, hbelow⟩ := hkept.pending hfirst
  constructor
  case columns => exact hkept.columns
  case seeds => exact hkept.seeds
  case starts => exact fun hbegun => Or.inl (hstarted hbegun)
  case link => exact hkept.link
  case tree => exact hkept.tree
  case root_iff => exact hkept.root_iff
  case entry =>
    intro id parent hentry
    rcases List.mem_cons.mp hentry with rfl | hentry
    · obtain rfl : parent = slot := Option.some.inj hparent
      refine ⟨hbelow, hoff, fun hbegun => ?_⟩
      have hlt := hstarted hbegun
      omega
    · exact hkept.entry hentry
  case seed =>
    intro id hentry
    rcases List.mem_cons.mp hentry with rfl | hentry
    · cases hparent
    · exact hkept.seed hentry
  case pending =>
    intro other hother
    refine hkept.pending ?_
    rw [hpending]
    exact List.mem_cons_of_mem entry hother

/-- Links lead to earlier slots, so the induction is on the slot. -/
theorem rootPath (hkept : moment.Kept graph selected) {slot : Nat}
    (hslot : slot < moment.slots.size) : ∃ chain, moment.RootPath slot chain := by
  induction slot using Nat.strong_induction_on with
  | _ slot ih =>
    obtain ⟨⟨id, parent⟩, hvisit⟩ : ∃ visit, moment.slots[slot]? = some visit :=
      ⟨_, Array.getElem?_eq_getElem hslot⟩
    cases parent with
    | none =>
      refine ⟨[slot], .root hvisit, ?_, ?_, id, slot, rfl, (hkept.root_iff.mp hvisit).1, ?_, ?_⟩
      · rw [path_root hvisit]
        exact (passesAt_cons hvisit []).symm
      · rw [path_root hvisit]
        exact List.nodup_singleton id
      · exact fun _ _ _ hle => hle
      · simp
    | some parent =>
      obtain ⟨hlt, -, hoff⟩ := hkept.link hvisit
      obtain ⟨chain, hclimbs, hpasses, hdistinct, seed, root, hlast, hbegun, hlatest, hwithin⟩ :=
        ih parent hlt (by omega)
      refine ⟨slot :: chain, .link hvisit hclimbs, ?_, ?_, seed, root, ?_, hbegun, ?_, ?_⟩
      · rw [path_link hvisit hlt, passesAt_cons hvisit, hpasses]
      · rw [path_link hvisit hlt]
        exact List.nodup_cons.mpr ⟨hoff, hdistinct⟩
      · rw [List.getLast?_cons, hlast]
        rfl
      · -- A tree that begins at or before the slot begins at or before its parent.
        intro other start hother hle
        exact hlatest other start hother (hkept.tree hvisit hother hle)
      · have hroot : root ≤ parent := by
          obtain ⟨hroot, hparent⟩ := hwithin root (List.mem_of_getLast? hlast)
          exact hparent
        intro step hstep
        rcases List.mem_cons.mp hstep with rfl | hstep
        · exact ⟨by omega, Nat.le_refl _⟩
        · obtain ⟨hlow, hhigh⟩ := hwithin step hstep
          exact ⟨hlow, by omega⟩

theorem linked (hkept : moment.Kept graph selected) : moment.Linked graph selected where
  seeds := hkept.seeds
  columns := hkept.columns
  link slot id parent hslot := ⟨(hkept.link hslot).1, (hkept.link hslot).2.1⟩
  root_iff slot id := hkept.root_iff
  entry id parent hentry :=
    ⟨(hkept.entry hentry).1.lt_size, (hkept.entry hentry).1, (hkept.entry hentry).2.1⟩
  seed id hentry := by
    have hbegun := hkept.seed hentry
    rcases hkept.starts hbegun with hless | ⟨-, hstack, -⟩
    · exact absurd hless (Nat.lt_irrefl _)
    · exact ⟨hstack, hbegun⟩
  chain slot hslot := hkept.rootPath hslot

theorem exists_looks (hkept : moment.Kept graph selected) {entry : Slot}
    (hentry : entry ∈ moment.pending) :
    ∃ slot chain seen, moment.Looks entry slot chain seen := by
  obtain ⟨slot, hparent, hlatest, hbelow⟩ := hkept.pending hentry
  obtain ⟨chain, hchain⟩ := hkept.rootPath hbelow.lt_size
  obtain ⟨seen, hscans, hprefix, hall, hpart⟩ := hchain.climbs.exists_scans entry.id
  rw [← hchain.passes] at hall hpart
  refine ⟨slot, chain, seen, hparent, hlatest, hchain, hscans, hprefix, hall, fun hon => ?_⟩
  rw [hpart hon, Schedule.circle, List.reverse_append]
  rfl

end Moment.Kept

theorem Moment.Arises.kept (harises : moment.Arises graph limit selected) :
    moment.Kept graph selected := by
  induction harises with
  | start => exact .start graph selected
  | seed _ hpending hstack hselected ih => exact ih.addSeed hpending hstack hselected
  | slot _ _ hstack _ ih => exact ih.takeSlot hstack
  | child _ hpending hoff ih => exact ih.pushChild hpending hoff

end Schedule

namespace Site

open Schedule (Moment)

/-- The moments of the search for a plan. -/
def Searches (site : Site) (moment : Moment) : Prop :=
  moment.Arises site.graph site.manager.settings.scheduleLimit site.manager.selected.toList

/-- The search for a plan ends at one of its moments.  At every moment its links make up a tree
for each seed that has been started, and when it looks whether a child closes a circle, it
follows the links of the latest slot within the tree and no further than to the root. -/
theorem plan_links (site : Site) :
    (∃ moment, site.Searches moment ∧
      moment.Ends site.graph site.manager.settings.scheduleLimit site.manager.selected.toList
        site.plan) ∧
    ∀ moment, site.Searches moment →
      moment.Linked site.graph site.manager.selected.toList ∧
      ∀ entry more, moment.pending = entry :: more →
        ∃ slot chain seen, moment.Looks entry slot chain seen := by
  refine ⟨Schedule.exists_ends .., fun moment harises => ?_⟩
  have hkept := harises.kept
  refine ⟨hkept.linked, fun entry more hpending => hkept.exists_looks ?_⟩
  rw [hpending]
  exact List.mem_cons_self

/-- Passes `0` and `1` are selected.  Pass `1` requires `2` and provides it as well. -/
def eddy : Site where
  manager := {
    own := ⟨9⟩
    selected := (∅ : IdSet).insert ⟨0⟩ |>.insert ⟨1⟩
    dependencies := ({} : Dependencies)
      |>.insert ⟨1⟩ (.ofDeclarations [.require ⟨2⟩, .provide ⟨2⟩]) }
  world := {
    catalog := ({ admission := .free } : Catalog)
      |>.install ⟨1⟩ { name := "A", arg := "a", behaviour := { run := .done .failure } }
      |>.install ⟨2⟩ { name := "B", arg := "b", behaviour := { run := .done .failure } } }

/-- The tree of `0` has been searched, and the tree of `1` down to `2`. -/
def swirl : Moment where
  schedule := #[⟨0⟩, ⟨1⟩, ⟨2⟩]
  parents := #[none, none, some 1]
  begun := [(⟨0⟩, 0), (⟨1⟩, 1)]
  pending := [⟨⟨1⟩, some 2⟩]

theorem slots_swirl : swirl.slots = #[⟨⟨0⟩, none⟩, ⟨⟨1⟩, none⟩, ⟨⟨2⟩, some 1⟩] := by
  decide +kernel

theorem searches_swirl : eddy.Searches swirl := by
  have hselected : eddy.manager.selected.toList = [⟨0⟩, ⟨1⟩] := by decide
  have hchildren : eddy.graph.children ⟨0⟩ = [] ∧ eddy.graph.children ⟨1⟩ = [⟨2⟩] ∧
      eddy.graph.children ⟨2⟩ = [⟨1⟩] := by
    decide
  obtain ⟨hzero, hone, htwo⟩ := hchildren
  have hroom : ∀ size < 3, size < eddy.manager.settings.scheduleLimit := by
    intro size hsize
    exact Nat.lt_trans hsize (by decide)
  have hfirst : eddy.Searches {
      schedule := #[⟨0⟩], parents := #[none], begun := [(⟨0⟩, 0)] } := by
    have hstart : eddy.Searches {} := .start
    have hseed := Moment.Arises.seed hstart rfl rfl hselected
    simpa [Searches, Moment.take, hzero] using hseed.slot rfl rfl (hroom 0 (by decide))
  have hsecond : eddy.Searches {
      schedule := #[⟨0⟩, ⟨1⟩], parents := #[none, none], begun := [(⟨0⟩, 0), (⟨1⟩, 1)]
      pending := [⟨⟨2⟩, some 1⟩] } := by
    have hseed := Moment.Arises.seed hfirst rfl rfl hselected
    simpa [Searches, Moment.take, hone] using hseed.slot rfl rfl (hroom 1 (by decide))
  have hentry := Moment.Arises.child hsecond rfl (by decide +kernel)
  simpa [Searches, Moment.take, htwo, swirl] using hentry.slot rfl rfl (hroom 2 (by decide))

theorem plan_links_circle :
    eddy.Searches swirl ∧ swirl.Linked eddy.graph [⟨0⟩, ⟨1⟩] ∧
    swirl.Looks ⟨⟨1⟩, some 2⟩ 2 [2, 1] [2, 1] ∧
    (∃ moment, eddy.Searches moment ∧
      moment.Ends eddy.graph eddy.manager.settings.scheduleLimit [⟨0⟩, ⟨1⟩]
        (.error (.cyclicDependency ["A", "B", "A"]))) := by
  have hselected : eddy.manager.selected.toList = [⟨0⟩, ⟨1⟩] := by decide
  have hplan : eddy.plan = .error (.cyclicDependency ["A", "B", "A"]) := by decide +kernel
  obtain ⟨hends, hmoments⟩ := plan_links eddy
  obtain ⟨hlinked, hlooks⟩ := hmoments swirl searches_swirl
  rw [hselected] at hlinked hends
  rw [hplan] at hends
  obtain ⟨slot, chain, seen, hlooked⟩ := hlooks _ _ rfl
  obtain rfl : 2 = slot := Option.some.inj hlooked.parent
  have hclimbs := hlooked.rootPath.climbs
  have hscans := hlooked.scans
  rw [slots_swirl] at hclimbs hscans
  obtain rfl : chain = [2, 1] := by
    cases hclimbs with
    | root hslot => cases hslot
    | link hslot hparent =>
      cases hslot
      cases hparent with
      | root => rfl
      | link hslot => cases hslot
  obtain rfl : seen = [2, 1] := by
    cases hscans with
    | found hslot => cases hslot
    | ended hslot => cases hslot
    | onward hslot _ hparent =>
      cases hslot
      cases hparent with
      | found => rfl
      | ended => rfl
      | onward hslot => cases hslot
  exact ⟨searches_swirl, hlinked, hlooked, hends⟩

end Site

end PassPipeline
