import PassPipeline.Manager.Collect

/-!
# The course of a collection

A collection meets each pass under management once, so no pass that it comes to has been
selected or has declared anything before, and a pass is never refused for being selected
already.  What remains of a collection is told by `Collects`: it asks one pass after the
other, and ends after the last one or at the first that is not in the catalogue.

Whatever else is said about collections is an induction on `Collects`; the guard against
repeated passes is dealt with only here.
-/

namespace PassPipeline

/-- A set lists each of its members once. -/
theorem IdSet.nodup_toList (ids : IdSet) : ids.toList.Nodup := by
  refine ids.ordered_toList.imp fun hless heq => ?_
  simp [heq] at hless

namespace Site

/-- The pass is neither selected nor among the collected dependencies. -/
structure Unmet (site : Site) (id : PassId) : Prop where
  unselected : id ∉ site.manager.selected
  uncollected : id ∉ site.manager.dependencies.usages

/-- The site after a pass has been asked whether it is selected and what it declares. -/
def asked (site : Site) (pass : Descriptor) (id : PassId) : Site :=
  (site.noteSelection pass id).2.noteUsage pass id

theorem noteSelection_of_unmet {site : Site} {id : PassId} (hunmet : site.Unmet id)
    (pass : Descriptor) :
    (site.noteSelection pass id).1 = .ok () ∧
      ∃ trace, (site.noteSelection pass id).2 =
        { manager := { site.manager with
            selected := if pass.selected then site.manager.selected.insert id
              else site.manager.selected }
          world := { site.world with trace } } := by
  have hguard : ¬ site.manager.selected.contains id = true :=
    mt Std.ExtTreeSet.mem_iff_contains.mpr hunmet.unselected
  rw [noteSelection]
  cases pass.selected with
  | false => exact ⟨rfl, _, rfl⟩
  | true =>
      simp only [if_true]
      rw [if_neg (by exact hguard)]
      exact ⟨rfl, _, rfl⟩

/-- A pass that is asked changes the selection, the dependencies and the trace. -/
theorem asked_frame {site : Site} {id : PassId} (hunmet : site.Unmet id) (pass : Descriptor) :
    ∃ trace, site.asked pass id =
      { manager := { site.manager with
          selected := if pass.selected then site.manager.selected.insert id
            else site.manager.selected
          dependencies := site.manager.dependencies.insert id pass.behaviour.usage }
        world := { site.world with trace } } := by
  obtain ⟨trace, hnoted⟩ := (noteSelection_of_unmet hunmet pass).2
  rw [asked, hnoted]
  exact ⟨_, rfl⟩

theorem catalog_asked {site : Site} {pass : Descriptor} {id : PassId} (hunmet : site.Unmet id) :
    (site.asked pass id).world.catalog = site.world.catalog := by
  obtain ⟨trace, hasked⟩ := asked_frame hunmet pass
  rw [hasked]

theorem Unmet.asked {site : Site} {pass : Descriptor} {id other : PassId}
    (hunmet : site.Unmet id) (hother : site.Unmet other) (hne : id ≠ other) :
    (site.asked pass id).Unmet other := by
  obtain ⟨trace, hasked⟩ := asked_frame hunmet pass
  rw [hasked]
  constructor
  · split
    · simpa [Std.ExtTreeSet.mem_insert, hne] using hother.unselected
    · exact hother.unselected
  · simpa [Dependencies.insert, Std.ExtTreeMap.mem_insert, hne] using hother.uncollected

/-- How a collection from the listed passes goes, and what it leaves. -/
inductive Collects : List PassId → Site → Except PassError Unit × Site → Prop
  | done {site : Site} : Collects [] site (.ok (), site)
  | unknown {site : Site} {id : PassId} {rest : List PassId}
      (hfind : site.world.catalog.find? id = none) :
      Collects (id :: rest) site (.error (.unknownPass id), site)
  | asked {site : Site} {id : PassId} {rest : List PassId} {pass : Descriptor}
      {result : Except PassError Unit × Site}
      (hfind : site.world.catalog.find? id = some pass) (hunmet : site.Unmet id)
      (hrest : Collects rest (site.asked pass id) result) :
      Collects (id :: rest) site result

theorem collects_collectFrom {ids : List PassId} {site : Site} (hdistinct : ids.Nodup)
    (hunmet : ∀ id ∈ ids, site.Unmet id) : Collects ids site (collectFrom ids site) := by
  induction ids generalizing site with
  | nil => exact .done
  | cons id rest ih =>
      obtain ⟨hid, hrest⟩ := List.nodup_cons.mp hdistinct
      have hfirst := hunmet id List.mem_cons_self
      rw [collectFrom]
      split
      · next error hinfo =>
        obtain ⟨hfind, rfl⟩ := Catalog.info_eq_error_iff.mp hinfo
        exact .unknown hfind
      · next pass hinfo =>
        -- The guard lets the pass through, since it has not been met.
        have hpassed : site.noteSelection pass id = (.ok (), (site.noteSelection pass id).2) :=
          Prod.ext (noteSelection_of_unmet hfirst pass).1 rfl
        rw [hpassed]
        refine .asked (Catalog.info_eq_ok_iff.mp hinfo) hfirst (ih hrest fun other hother => ?_)
        have hne : id ≠ other := fun heq => hid (heq ▸ hother)
        exact hfirst.asked (hunmet other (List.mem_cons_of_mem id hother)) hne

theorem unmet_forget (site : Site) (id : PassId) : site.forget.Unmet id :=
  ⟨by simp [forget, update], by simp [forget, update]⟩

/-- The passes under management may also be asked only up to some place. -/
theorem collects_prefix {site : Site} {asked : List PassId}
    (hasked : asked <+: site.manager.managed.toList) :
    Collects asked site.forget (collectFrom asked site.forget) :=
  collects_collectFrom (hasked.sublist.nodup (IdSet.nodup_toList _)) fun id _ =>
    site.unmet_forget id

theorem collects_collect (site : Site) :
    Collects site.manager.managed.toList site.forget site.collect :=
  collects_prefix List.prefix_rfl

/-- A collection changes the selection, the dependencies and the trace. -/
theorem Collects.frame {ids : List PassId} {site : Site} {result : Except PassError Unit × Site}
    (hcollects : Collects ids site result) :
    ∃ selected dependencies trace,
      result.2 =
        { manager := { site.manager with selected, dependencies },
          world := { site.world with trace } } := by
  induction hcollects with
  | done => exact ⟨_, _, _, rfl⟩
  | unknown _ => exact ⟨_, _, _, rfl⟩
  | @asked site id rest pass result _ hunmet _ ih =>
      obtain ⟨trace, hasked⟩ := asked_frame hunmet pass
      obtain ⟨selected, dependencies, after, hrest⟩ := ih
      rw [hasked] at hrest
      exact ⟨selected, dependencies, after, hrest⟩

theorem collect_frame (site : Site) :
    ∃ selected dependencies trace,
      site.collect.2 =
        { manager := { site.manager with selected, dependencies },
          world := { site.world with trace } } := by
  obtain ⟨selected, dependencies, trace, hcollect⟩ := site.collects_collect.frame
  exact ⟨selected, dependencies, trace, hcollect⟩

end Site

/-! ## Changes that a collection does not notice -/

/-- A change of a manager beside what it collects and what it collects from. -/
structure Manager.Aside (change : Manager → Manager) : Prop where
  managed : ∀ manager, (change manager).managed = manager.managed
  selected : ∀ manager, (change manager).selected = manager.selected
  dependencies : ∀ manager, (change manager).dependencies = manager.dependencies
  select : ∀ manager selected, change { manager with selected } = { change manager with selected }
  depend : ∀ manager dependencies,
    change { manager with dependencies } = { change manager with dependencies }

namespace Site

variable {change : Manager → Manager}

theorem noteSelection_update (haside : Manager.Aside change) (site : Site) (pass : Descriptor)
    (id : PassId) :
    (site.update change).noteSelection pass id =
      ((site.noteSelection pass id).1, (site.noteSelection pass id).2.update change) := by
  have hsame : ((site.update change).log .debug .selection (pass.name ++ ": selected")
      none).manager.selected = site.manager.selected := haside.selected site.manager
  have htaken : (site.log .debug .selection (pass.name ++ ": selected") none).manager.selected =
      site.manager.selected := rfl
  rw [noteSelection, noteSelection]
  cases pass.selected with
  | false => rfl
  | true =>
    simp only [if_true, hsame, htaken]
    by_cases hmet : site.manager.selected.contains id = true
    · rw [if_pos hmet, if_pos hmet]
      rfl
    · have hchosen : { change site.manager with
            selected := (change site.manager).selected.insert id } =
          change { site.manager with selected := site.manager.selected.insert id } := by
        rw [haside.selected]
        exact (haside.select ..).symm
      rw [if_neg hmet, if_neg hmet]
      exact Prod.ext rfl (congrArg (Site.mk · _) hchosen)

theorem noteUsage_update (haside : Manager.Aside change) (site : Site) (pass : Descriptor)
    (id : PassId) :
    (site.update change).noteUsage pass id = (site.noteUsage pass id).update change := by
  have hnoted : { change site.manager with
        dependencies := (change site.manager).dependencies.insert id pass.behaviour.usage } =
      change { site.manager with
        dependencies := site.manager.dependencies.insert id pass.behaviour.usage } := by
    rw [haside.dependencies]
    exact (haside.depend ..).symm
  exact congrArg (Site.mk · _) hnoted

theorem collectFrom_update (haside : Manager.Aside change) (ids : List PassId) (site : Site) :
    collectFrom ids (site.update change) =
      ((collectFrom ids site).1, (collectFrom ids site).2.update change) := by
  induction ids generalizing site with
  | nil => rfl
  | cons id rest ih =>
    have hinfo : (site.update change).world.catalog.info id = site.world.catalog.info id := rfl
    rw [collectFrom, collectFrom, hinfo]
    rcases site.world.catalog.info id with error | pass
    · rfl
    · dsimp only
      rw [noteSelection_update haside]
      rcases site.noteSelection pass id with ⟨error | ⟨⟩, after⟩
      · rfl
      · dsimp only
        rw [noteUsage_update haside]
        exact ih (after.noteUsage pass id)

theorem collect_update (haside : Manager.Aside change) (site : Site) :
    (site.update change).collect = (site.collect.1, site.collect.2.update change) := by
  have hforget : (site.update change).forget = site.forget.update change := by
    have hforgotten : { change site.manager with selected := ∅, dependencies := {} } =
        change { site.manager with selected := ∅, dependencies := {} } := by
      have hselection := haside.select site.manager ∅
      have hboth := haside.depend { site.manager with selected := ∅ } {}
      rw [hselection] at hboth
      exact hboth.symm
    exact congrArg (Site.mk · _) hforgotten
  have hmanaged : (site.update change).manager.managed = site.manager.managed :=
    haside.managed site.manager
  rw [collect, collect, hforget, hmanaged]
  exact collectFrom_update haside _ site.forget

end Site

end PassPipeline
