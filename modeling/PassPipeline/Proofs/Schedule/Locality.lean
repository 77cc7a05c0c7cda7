import PassPipeline.Proofs.Run.Threading
import PassPipeline.Proofs.Run.Declarations

/-!
# How far a search sees

A search goes from pass to child, so it sees of the dependencies only what the selected passes
reach.  Two graphs that agree there have the same tours (`tour_eq`), refusals included: a circle is
named by passes that stand on the path to it.  So a plan stays the same whatever happens to the
rest of the dependencies (`plan_local`).

A manager that gets further passes under management collects more.  That is no matter of its plan
as long as these passes are not selected and neither provide what the selection reaches nor add
requirements to it.  The last condition is not idle, since a pass may be required without being
under management: then it is reached, and what it requires is learned only when it comes under
management (`managing_matters`).
-/

namespace PassPipeline

namespace Schedule.Graph

variable {graph other : Graph} {selected : List PassId}

/-- The graphs have the same children and names of all that the selected passes reach in the
first. -/
def AgreesBelow (graph other : Graph) (selected : List PassId) : Prop :=
  ∀ id, graph.Reachable selected id →
    other.children id = graph.children id ∧ other.name id = graph.name id

theorem refuse_congr {passes : List PassId}
    (hnames : ∀ id ∈ passes, other.name id = graph.name id) :
    other.refuse passes = graph.refuse passes := by
  have hmap : passes.mapM other.name = passes.mapM graph.name := by
    induction passes with
    | nil => rfl
    | cons first rest ih =>
      rw [List.mapM_cons, List.mapM_cons, hnames first List.mem_cons_self,
        ih fun id hid => hnames id (List.mem_cons_of_mem first hid)]
  rw [refuse, refuse, hmap]

theorem mem_of_mem_circle {path : List PassId} {child id : PassId} (hchild : child ∈ path)
    (hid : id ∈ circle path child) : id ∈ path := by
  rw [circle, List.cons_append, List.mem_cons, List.mem_append, List.mem_reverse,
    List.mem_singleton] at hid
  rcases hid with rfl | hid | rfl
  · exact hchild
  · exact (List.takeWhile_sublist _).mem hid
  · exact hchild

/-- Everything on the path to a tour is reached, and so is everything on the way down. -/
theorem tour_eq (hagrees : graph.AgreesBelow other selected) {path : List PassId} {id : PassId}
    (hpath : ∀ above ∈ id :: path, graph.Reachable selected above) :
    other.tour path id = graph.tour path id := by
  induction path, id using Graph.tour.induct graph with
  | case1 path id child hclosing =>
    have hchildren := (hagrees id (hpath id List.mem_cons_self)).1
    have hmem : child ∈ id :: path := by simpa using List.find?_some hclosing
    have hrefuse : other.refuse (circle (id :: path) child) =
        graph.refuse (circle (id :: path) child) :=
      refuse_congr fun above habove =>
        (hagrees above (hpath above (mem_of_mem_circle hmem habove))).2
    rw [tour_of_closing hclosing, tour_of_closing (by rw [hchildren]; exact hclosing), hrefuse]
  | case2 path id hopen ih =>
    have hid := hpath id List.mem_cons_self
    have hchildren := (hagrees id hid).1
    have hbelow : ∀ child ∈ (graph.children id).reverse,
        other.tour (id :: path) child = graph.tour (id :: path) child := by
      intro child hchild
      refine ih ⟨child, hchild⟩ fun above habove => ?_
      rcases List.mem_cons.mp habove with rfl | habove
      · exact hid.trans (.single (List.mem_reverse.mp hchild))
      · exact hpath above habove
    rw [tour_of_open hopen, tour_of_open (by rw [hchildren]; exact hopen), hchildren,
      List.map_congr_left hbelow]

/-- What the selected passes do not reach has no influence on what is built, be it a schedule or
a refusal. -/
theorem build_eq (hagrees : graph.AgreesBelow other selected) (limit : Nat) :
    build other limit selected = build graph limit selected := by
  have htours : other.tours selected = graph.tours selected := by
    rw [tours, tours]
    refine congrArg Tour.sequence (List.map_congr_left fun start hstart => ?_)
    refine tour_eq hagrees fun above habove => ?_
    rw [List.mem_singleton.mp habove]
    exact reachable_of_mem hstart
  rw [build_eq_within, build_eq_within, htours]

end Schedule.Graph

/-! ## Dependencies as sets -/

theorem IdSet.toList_congr {first second : IdSet}
    (hsame : ∀ id, id ∈ first.toList ↔ id ∈ second.toList) : first.toList = second.toList := by
  have hequal : first = second := Std.ExtTreeSet.ext_mem fun id => by
    rw [← Std.ExtTreeSet.mem_toList, hsame, Std.ExtTreeSet.mem_toList]
  rw [hequal]

namespace Dependencies

theorem exists_toList (dependencies : Dependencies) (id : PassId) :
    (∃ ids : IdSet, dependencies.required id = ids.toList) ∧
      ∃ ids : IdSet, dependencies.providing id = ids.toList := by
  have hempty : (∅ : IdSet).toList = [] := by simp
  constructor
  · rw [required]
    split
    · exact ⟨_, rfl⟩
    · exact ⟨∅, hempty.symm⟩
  · rw [providing]
    split
    · exact ⟨_, rfl⟩
    · exact ⟨∅, hempty.symm⟩

/-- The children are determined by the two sets that they come from. -/
theorem children_congr {first second : Dependencies} {id : PassId}
    (hrequired : ∀ child, child ∈ first.required id ↔ child ∈ second.required id)
    (hproviding : ∀ child, child ∈ first.providing id ↔ child ∈ second.providing id) :
    first.children id = second.children id := by
  obtain ⟨⟨required, hfirst⟩, providing, hproviders⟩ := first.exists_toList id
  obtain ⟨⟨required', hsecond⟩, providing', hproviders'⟩ := second.exists_toList id
  rw [hfirst, hsecond] at hrequired
  rw [hproviders, hproviders'] at hproviding
  rw [children, children, hfirst, hsecond, hproviders, hproviders',
    IdSet.toList_congr hrequired, IdSet.toList_congr hproviding]

end Dependencies

namespace Site

variable {site other : Site}

/-- The selection reaches the pass. -/
def InReach (site : Site) (id : PassId) : Prop :=
  site.graph.Reachable site.manager.selected.toList id

/-- The managers have the same selection and the same limit, and everything that the selection
reaches at the first requires the same passes at the other, is provided by the same, and has the
same name. -/
structure AgreesBelow (site other : Site) : Prop where
  selected : other.manager.selected = site.manager.selected
  limit : other.manager.settings.scheduleLimit = site.manager.settings.scheduleLimit
  required : ∀ id, site.InReach id → ∀ child,
    child ∈ other.manager.dependencies.required id ↔ child ∈ site.manager.dependencies.required id
  providing : ∀ id, site.InReach id → ∀ child,
    child ∈ other.manager.dependencies.providing id ↔
      child ∈ site.manager.dependencies.providing id
  name : ∀ id, site.InReach id → other.name id = site.name id

theorem AgreesBelow.plan_eq (hagrees : site.AgreesBelow other) : other.plan = site.plan := by
  have hgraph : site.graph.AgreesBelow other.graph site.manager.selected.toList := by
    intro id hid
    refine ⟨?_, hagrees.name id hid⟩
    exact Dependencies.children_congr (hagrees.required id hid) (hagrees.providing id hid)
  rw [plan, plan, hagrees.selected, hagrees.limit]
  exact Schedule.Graph.build_eq hgraph _

/-! ## Further passes under management -/

/-- The pass is under management at the other manager only. -/
def Joins (site other : Site) (id : PassId) : Prop :=
  id ∈ other.manager.managed ∧ id ∉ site.manager.managed

/-- The other manager has further passes under management, which are not selected, provide nothing
that the selection of the first manager reaches, and require nothing if they are reached
themselves. -/
structure ManagesMore (site other : Site) : Prop where
  catalog : other.world.catalog = site.world.catalog
  limit : other.manager.settings.scheduleLimit = site.manager.settings.scheduleLimit
  managed : ∀ id ∈ site.manager.managed, id ∈ other.manager.managed
  unselected : ∀ id, site.Joins other id → ¬ other.Flagged id
  provides : ∀ id capability, site.Joins other id → other.Declares id (.provide capability) →
    ¬ site.collect.2.InReach capability
  requires : ∀ id required, site.Joins other id → other.Declares id (.require required) →
    ¬ site.collect.2.InReach id

namespace ManagesMore

variable (hmore : site.ManagesMore other)
include hmore

theorem collected (hok : other.collect.1 = .ok ()) : site.collect.1 = .ok () := by
  rcases site.collect_cases with ⟨hdone, -⟩ | ⟨missing, hmissing, hnone, -, -⟩
  · exact hdone
  · rcases other.collect_cases with ⟨-, hgathered⟩ | ⟨_, -, -, herror, -⟩
    · obtain ⟨pass, hpass⟩ := hgathered.known missing (hmore.managed missing hmissing)
      rw [hmore.catalog, hnone] at hpass
      cases hpass
    · cases hok.symm.trans herror

/-- The other manager knows of every declaration that the first knows of, and what it knows beside
is declared by one of the further passes. -/
theorem declares_iff {id : PassId} {declaration : Declaration}
    (hold : site.Joins other id → ¬ other.Declares id declaration) :
    other.Declares id declaration ↔ site.Declares id declaration := by
  constructor
  · rintro ⟨hid, hpass⟩
    by_cases hmanaged : id ∈ site.manager.managed
    · exact ⟨hmanaged, hmore.catalog ▸ hpass⟩
    · exact absurd ⟨hid, hpass⟩ (hold ⟨hid, hmanaged⟩)
  · rintro ⟨hid, hpass⟩
    exact ⟨hmore.managed id hid, hmore.catalog ▸ hpass⟩

theorem flagged_iff {id : PassId} : other.Flagged id ↔ site.Flagged id := by
  constructor
  · rintro ⟨hid, hpass⟩
    by_cases hmanaged : id ∈ site.manager.managed
    · exact ⟨hmanaged, hmore.catalog ▸ hpass⟩
    · exact absurd ⟨hid, hpass⟩ (hmore.unselected id ⟨hid, hmanaged⟩)
  · rintro ⟨hid, hpass⟩
    exact ⟨hmore.managed id hid, hmore.catalog ▸ hpass⟩

theorem agreesBelow (hok : other.collect.1 = .ok ()) :
    site.collect.2.AgreesBelow other.collect.2 := by
  have hdone := hmore.collected hok
  obtain ⟨_, _, _, hframe⟩ := site.collect_frame
  obtain ⟨_, _, _, hframe'⟩ := other.collect_frame
  refine ⟨?_, ?_, fun id hid child => ?_, fun id hid child => ?_, fun id _ => ?_⟩
  · refine Std.ExtTreeSet.ext_mem fun id => ?_
    rw [mem_selected_of_collected hok, mem_selected_of_collected hdone, hmore.flagged_iff]
  · rw [hframe, hframe']
    exact hmore.limit
  · rw [mem_required_collect hok, mem_required_collect hdone]
    exact hmore.declares_iff fun hjoins hdeclares => hmore.requires id child hjoins hdeclares hid
  · rw [mem_providing_collect hok, mem_providing_collect hdone]
    exact hmore.declares_iff fun hjoins hdeclares => hmore.provides child id hjoins hdeclares hid
  · rw [hframe, hframe', name, name]
    exact congrArg (fun catalog : Catalog => (catalog.info id).map (·.name)) hmore.catalog

end ManagesMore

/-- A plan depends on nothing but what the selection reaches, and that is so of every refusal as
well.  In particular it stays the same when further passes come under management, as long as the
collection is complete and these passes are not selected, provide nothing in reach, and require
nothing if they are in reach themselves. -/
theorem plan_local (site : Site) :
    (∀ other, site.AgreesBelow other → other.plan = site.plan) ∧
    ∀ other, site.ManagesMore other → other.collect.1 = .ok () →
      site.collect.1 = .ok () ∧ other.collect.2.plan = site.collect.2.plan :=
  ⟨fun _ hagrees => hagrees.plan_eq,
    fun _ hmore hok => ⟨hmore.collected hok, (hmore.agreesBelow hok).plan_eq⟩⟩

/-- Pass `1` is selected and requires `2`, which requires `3`.  Pass `4` requires itself and a pass
that there is not. -/
def quarter : Catalog :=
  ({ admission := .free } : Catalog)
    |>.install ⟨0⟩ Manager.registration
    |>.install ⟨1⟩ {
      name := "Report", arg := "report"
      behaviour := { declarations := [.require ⟨2⟩], run := .done .failure } }
    |>.install ⟨2⟩ {
      name := "Stats", arg := "stats"
      behaviour := { declarations := [.require ⟨3⟩], run := .done .failure } }
    |>.install ⟨3⟩ { name := "Read", arg := "read", behaviour := { run := .done .failure } }
    |>.install ⟨4⟩ {
      name := "Loop", arg := "loop"
      behaviour := {
        declarations := [.require ⟨4⟩, .require ⟨5⟩, .provide ⟨6⟩]
        run := .done .failure } }
    |>.update ⟨1⟩ ({ · with selected := true })

/-- Has the listed passes under management. -/
def ward (managed : List PassId) : Site where
  manager := { own := ⟨0⟩, managed := .ofList managed }
  world := { catalog := quarter }

def hamlet : Site := ward [⟨0⟩, ⟨1⟩, ⟨2⟩]

def borough : Site := ward [⟨0⟩, ⟨1⟩, ⟨2⟩, ⟨3⟩, ⟨4⟩]

theorem inReach_hamlet {id : PassId} (hid : hamlet.collect.2.InReach id) :
    id ∈ [(⟨1⟩ : PassId), ⟨2⟩, ⟨3⟩] := by
  obtain ⟨start, hstart, hpath⟩ := hid
  have hselected : hamlet.collect.2.manager.selected.toList = [⟨1⟩] := by decide +kernel
  have hclosed : ∀ id ∈ [(⟨1⟩ : PassId), ⟨2⟩, ⟨3⟩],
      ∀ child ∈ hamlet.collect.2.manager.dependencies.children id,
        child ∈ [(⟨1⟩ : PassId), ⟨2⟩, ⟨3⟩] := by
    decide +kernel
  induction hpath with
  | refl =>
    rw [hselected] at hstart
    simpa using Or.inl (List.mem_singleton.mp hstart)
  | tail _ hstep ih => exact hclosed _ ih _ hstep

theorem managesMore_hamlet : hamlet.ManagesMore borough := by
  have hjoins : ∀ id, hamlet.Joins borough id → id ∈ [(⟨3⟩ : PassId), ⟨4⟩] := by
    simp [Joins, hamlet, borough, ward]
  have hpasses : ∀ id ∈ [(⟨3⟩ : PassId), ⟨4⟩], ∀ pass ∈ quarter.find? id,
      pass.selected = false ∧
        ∀ declaration ∈ pass.behaviour.internalDeclarations.getD pass.behaviour.declarations,
          id = ⟨4⟩ ∧ declaration ∉ [.provide ⟨1⟩, .provide ⟨2⟩, .provide ⟨3⟩] := by
    decide +kernel
  refine ⟨rfl, rfl, by simp [hamlet, borough, ward], ?_, ?_, ?_⟩
  · rintro id hid ⟨-, pass, hfind, hselected⟩
    rw [(hpasses id (hjoins id hid) pass hfind).1] at hselected
    cases hselected
  · rintro id capability hid ⟨-, pass, hfind, hdeclared⟩ hreach
    refine ((hpasses id (hjoins id hid) pass hfind).2 _ hdeclared).2 ?_
    simpa using inReach_hamlet hreach
  · rintro id required hid ⟨-, pass, hfind, hdeclared⟩ hreach
    obtain ⟨rfl, -⟩ := (hpasses id (hjoins id hid) pass hfind).2 _ hdeclared
    exact absurd (inReach_hamlet hreach) (by decide)

theorem plan_local_circle_elsewhere :
    hamlet.ManagesMore borough ∧ borough.collect.1 = .ok () ∧
    borough.collect.2.graph.OnCircle ⟨4⟩ ∧
    hamlet.collect.1 = .ok () ∧ hamlet.collect.2.AgreesBelow borough.collect.2 ∧
    borough.collect.2.plan = .ok [⟨3⟩, ⟨2⟩, ⟨1⟩] := by
  have hok : borough.collect.1 = .ok () := by decide +kernel
  have hself : (⟨4⟩ : PassId) ∈ borough.collect.2.manager.dependencies.children ⟨4⟩ := by
    decide +kernel
  have hplan : hamlet.collect.2.plan = .ok [⟨3⟩, ⟨2⟩, ⟨1⟩] := by decide +kernel
  have hagrees := managesMore_hamlet.agreesBelow hok
  obtain ⟨hcollected, -⟩ := (plan_local hamlet).2 borough managesMore_hamlet hok
  have hsame := (plan_local hamlet.collect.2).1 borough.collect.2 hagrees
  exact ⟨managesMore_hamlet, hok, .single hself, hcollected, hagrees, hsame.trans hplan⟩

/-- A required pass that comes under management changes the plan by what it requires, and one
that is not in the catalogue lets the collection fail, although neither is selected or provides
anything. -/
theorem managing_matters :
    ¬ hamlet.Flagged ⟨2⟩ ∧
    (∀ capability, ¬ hamlet.Declares ⟨2⟩ (.provide capability)) ∧
    (ward [⟨0⟩, ⟨1⟩]).collect.2.plan = .ok [⟨2⟩, ⟨1⟩] ∧
    hamlet.collect.2.plan = .ok [⟨3⟩, ⟨2⟩, ⟨1⟩] ∧
    (ward [⟨0⟩, ⟨1⟩, ⟨5⟩]).collect.1 = .error (.unknownPass ⟨5⟩) := by
  have hpass : ∀ pass ∈ quarter.find? ⟨2⟩, pass.selected = false ∧
      pass.behaviour.internalDeclarations.getD pass.behaviour.declarations = [.require ⟨3⟩] := by
    decide +kernel
  refine ⟨?_, ?_, by decide +kernel, by decide +kernel, by decide +kernel⟩
  · rintro ⟨-, pass, hfind, hselected⟩
    rw [(hpass pass hfind).1] at hselected
    cases hselected
  · rintro capability ⟨-, pass, hfind, hdeclared⟩
    rw [(hpass pass hfind).2] at hdeclared
    simp at hdeclared

end Site

end PassPipeline
