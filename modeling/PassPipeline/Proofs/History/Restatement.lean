import PassPipeline.Proofs.Run.Frame
import PassPipeline.Proofs.Schedule.Order

/-!
# What a schedule depends on

A manager plans from what it collects, and it collects two things of each pass under
management: whether it is selected, and the two sets that its declarations add up to.  The
order and the number of the declarations do not matter (`Behaviour.usage_congr`).

So managers with the same own pass, the same limit, the same default pass and the same passes
under management execute the same schedule if those passes say the same, whatever else is
different about the managers and the catalogues (`SameTask.executes`).  The names of passes
come into a plan only where a circle is reported (`build_congr`).
-/

namespace PassPipeline

/-! ## Declarations -/

namespace Behaviour

/-- What an instance declares that is made only to declare its usage. -/
def declared (behaviour : Behaviour) : List Declaration :=
  behaviour.internalDeclarations.getD behaviour.declarations

/-- The same declarations, in whatever order and however often. -/
def DeclaresAs (first second : Behaviour) : Prop :=
  ∀ declaration, declaration ∈ first.declared ↔ declaration ∈ second.declared

theorem usage_congr {first second : Behaviour} (hdeclared : first.DeclaresAs second) :
    second.usage = first.usage := by
  have hrequires : second.usage.requires = first.usage.requires := by
    apply Std.ExtTreeSet.ext_mem
    intro id
    exact Usage.mem_requires_ofDeclarations.trans
      ((hdeclared _).symm.trans Usage.mem_requires_ofDeclarations.symm)
  have hprovides : second.usage.provides = first.usage.provides := by
    apply Std.ExtTreeSet.ext_mem
    intro id
    exact Usage.mem_provides_ofDeclarations.trans
      ((hdeclared _).symm.trans Usage.mem_provides_ofDeclarations.symm)
  exact congrArg₂ Usage.mk hrequires hprovides

end Behaviour

/-- What a collection learns of a pass. -/
def Descriptor.stance (pass : Descriptor) : Bool × Usage := (pass.selected, pass.behaviour.usage)

namespace Catalog

/-- The passes have the same flags and the same declarations. -/
def Restates (first : Catalog) (ids : IdSet) (second : Catalog) : Prop :=
  ∀ id ∈ ids, Option.Rel
    (fun here there => there.selected = here.selected ∧ here.behaviour.DeclaresAs there.behaviour)
    (first.find? id) (second.find? id)

theorem Restates.stance {first second : Catalog} {ids : IdSet}
    (hrestates : first.Restates ids second) {id : PassId} (hid : id ∈ ids) :
    (second.find? id).map Descriptor.stance = (first.find? id).map Descriptor.stance := by
  have hstated := hrestates id hid
  generalize first.find? id = here at hstated ⊢
  generalize second.find? id = there at hstated ⊢
  cases hstated with
  | none => rfl
  | some hsame => simp [Descriptor.stance, hsame.1, Behaviour.usage_congr hsame.2]

end Catalog

/-! ## Plans -/

namespace Schedule

/-- A schedule depends only on the children. -/
theorem build_congr {graph other : Graph} (hchildren : other.children = graph.children)
    {limit : Nat} {selected schedule : List PassId}
    (hbuild : build graph limit selected = .ok schedule) :
    build other limit selected = .ok schedule := by
  obtain ⟨hgrounded, hschedule⟩ := Graph.build_eq_ok hbuild
  obtain ⟨children, name⟩ := graph
  obtain ⟨otherChildren, otherName⟩ := other
  obtain rfl : otherChildren = children := hchildren
  -- Neither groundedness nor the unfoldings have to do with the names.
  have hgrounded' : ∀ start ∈ selected, Graph.Grounded ⟨otherChildren, otherName⟩ start :=
    hgrounded
  rw [Graph.build_of_grounded limit hgrounded] at hbuild
  rw [Graph.build_of_grounded limit hgrounded']
  exact hbuild

end Schedule

namespace Site

/-! ## Collections -/

theorem Collects.same {ids : List PassId} {site other : Site}
    {result otherResult : Except PassError Unit × Site} (hcollects : Collects ids site result)
    (hother : Collects ids other otherResult)
    (hstance : ∀ id ∈ ids, (other.world.catalog.find? id).map Descriptor.stance =
      (site.world.catalog.find? id).map Descriptor.stance)
    (hselected : other.manager.selected = site.manager.selected)
    (hdependencies : other.manager.dependencies = site.manager.dependencies) :
    otherResult.1 = result.1 ∧
      otherResult.2.manager.selected = result.2.manager.selected ∧
      otherResult.2.manager.dependencies = result.2.manager.dependencies := by
  induction hcollects generalizing other with
  | done =>
      cases hother
      exact ⟨rfl, hselected, hdependencies⟩
  | @unknown site id rest hfind =>
      have hid := hstance id List.mem_cons_self
      cases hother with
      | unknown _ => exact ⟨rfl, hselected, hdependencies⟩
      | asked hfound _ _ => simp [hfind, hfound] at hid
  | @asked site id rest pass result hfind hunmet _ ih =>
      have hid := hstance id List.mem_cons_self
      cases hother with
      | unknown hmissing => simp [hfind, hmissing] at hid
      | @asked _ _ _ found _ hfound hfresh hrest =>
          rw [hfind, hfound] at hid
          obtain ⟨hflag, husage⟩ := Prod.mk.inj (Option.some.inj hid)
          obtain ⟨trace, hasked⟩ := asked_frame hunmet pass
          obtain ⟨trace', hasked'⟩ := asked_frame hfresh found
          -- Asking a pass leaves the catalogue, so the stances of the others stay as they are.
          apply ih hrest
          · intro later hlater
            rw [catalog_asked hunmet, catalog_asked hfresh]
            exact hstance later (List.mem_cons_of_mem id hlater)
          · rw [hasked, hasked']
            simp only [hflag, hselected]
          · rw [hasked, hasked']
            simp only [husage, hdependencies]

/-! ## Tasks -/

/-- What makes two managers plan alike. -/
structure SameTask (first second : Site) : Prop where
  own : second.manager.own = first.manager.own
  limit : second.manager.settings.scheduleLimit = first.manager.settings.scheduleLimit
  managed : second.manager.managed = first.manager.managed
  defaultPass : second.manager.defaultPass = first.manager.defaultPass
  restates : first.world.catalog.Restates first.manager.managed second.world.catalog

variable {first second : Site} {timing : Timing}

theorem SameTask.collect (htask : first.SameTask second) :
    second.collect.1 = first.collect.1 ∧
      second.collect.2.manager.selected = first.collect.2.manager.selected ∧
      second.collect.2.manager.dependencies = first.collect.2.manager.dependencies := by
  have hcollects := second.collects_collect
  rw [htask.managed] at hcollects
  exact first.collects_collect.same hcollects
    (fun id hid => htask.restates.stance (Std.ExtTreeSet.mem_toList.mp hid)) rfl rfl

theorem SameTask.ready (htask : first.SameTask second) {ready : Site}
    (hready : first.Ready timing ready) (again : Timing) :
    ∃ found, second.Ready again found ∧ found.manager.selected = ready.manager.selected ∧
      found.manager.dependencies = ready.manager.dependencies := by
  obtain ⟨hresult, hselected, hdependencies⟩ := htask.collect
  obtain ⟨chosen, declared, trace, hframe⟩ := first.collect_frame
  obtain ⟨chosen', declared', trace', hframe'⟩ := second.collect_frame
  have hdefault : second.collect.2.manager.defaultPass = first.collect.2.manager.defaultPass := by
    rw [hframe, hframe']
    exact htask.defaultPass
  have hdone : second.collect = (.ok (), second.collect.2) :=
    Prod.ext (hresult.trans hready.collect_eq) rfl
  cases hready with
  | @chosen after hcollect hsome =>
      rw [hcollect] at hselected hdependencies
      refine ⟨_, .chosen hdone ?_, hselected, hdependencies⟩
      rw [hselected]
      exact hsome
  | @byDefault after id hcollect hnone hid =>
      rw [hcollect] at hselected hdependencies hdefault
      refine ⟨_, .byDefault hdone ?_ (hdefault.trans hid), ?_, hdependencies⟩
      · rw [hselected]
        exact hnone
      · exact congrArg (·.insert id) hselected

/-- Managers with the same task execute the same schedule. -/
theorem SameTask.executes (htask : first.SameTask second) {ready : Site}
    {schedule : List PassId} (hexecutes : first.Executes timing ready schedule)
    (again : Timing) : ∃ found, second.Executes again found schedule := by
  obtain ⟨found, hfound, hselected, hdependencies⟩ := htask.ready hexecutes.isReady again
  obtain ⟨chosen, trace, hframe⟩ := hexecutes.isReady.frame
  obtain ⟨chosen', trace', hframe'⟩ := hfound.frame
  have hown : found.manager.own = ready.manager.own := by
    rw [hframe, hframe']
    exact htask.own
  have hlimit : found.manager.settings.scheduleLimit = ready.manager.settings.scheduleLimit := by
    rw [hframe, hframe']
    exact htask.limit
  refine ⟨found, hfound, ?_, ?_⟩
  · rw [hselected, hown]
    exact hexecutes.notOwn
  · have hchildren : found.graph.children = ready.graph.children := by
      rw [graph, graph, hdependencies]
    rw [plan, hselected, hlimit]
    exact Schedule.build_congr hchildren hexecutes.planned

end Site

end PassPipeline
