import Mathlib.Tactic.Common
import PassPipeline.Proofs.Catalog.Numbering
import PassPipeline.Proofs.Run.Frame

/-!
# The two indexes of a manager

A manager keeps the usages that its passes declare, and for each capability the passes
that provide it.  The two are updated side by side, but they always say the same: whatever
has been done to the manager, the second is the first turned round (`indexes_inverse`).

Nothing but a collection changes the indexes (`run_frame`).  A collection begins with empty
ones and adds the usages of passes that it has not met before, so that no provider is left
over from an older declaration (`Dependencies.Matched.insert`).  It may end early, but then
it ends between two passes.
-/

namespace PassPipeline

/-! ## Indexes that match -/

namespace Dependencies

/-- The index of the providers is the index of the usages turned round. -/
structure Matched (dependencies : Dependencies) : Prop where
  inverse : ∀ provider capability : PassId,
    (∃ providers, dependencies.providers[capability]? = some providers ∧ provider ∈ providers) ↔
      ∃ usage, dependencies.usages[provider]? = some usage ∧ capability ∈ usage.provides
  inhabited : ∀ (capability : PassId) (providers : IdSet),
    dependencies.providers[capability]? = some providers → providers ≠ ∅

theorem mem_providing_iff {dependencies : Dependencies} {provider capability : PassId} :
    provider ∈ dependencies.providing capability ↔
      ∃ providers, dependencies.providers[capability]? = some providers ∧
        provider ∈ providers := by
  unfold providing
  split
  · next providers hproviders => simp [hproviders]
  · next hnone => simp [hnone]

theorem matched_empty : ({} : Dependencies).Matched where
  inverse provider capability := by simp
  inhabited capability providers hproviders := by simp at hproviders

/-- Becoming a provider leaves no capability without one. -/
theorem inhabited_foldl {id : PassId} {capabilities : List PassId} {index : IdMap IdSet}
    (hindex : ∀ (capability : PassId) (providers : IdSet),
      index[capability]? = some providers → providers ≠ ∅)
    {capability : PassId} {providers : IdSet}
    (hproviders : (capabilities.foldl
      (fun index capability =>
        index.insert capability ((index.getD capability ∅).insert id))
      index)[capability]? = some providers) : providers ≠ ∅ := by
  induction capabilities generalizing index with
  | nil => exact hindex capability providers hproviders
  | cons first rest ih =>
      refine ih ?_ hproviders
      intro other found hfound
      rw [Std.ExtTreeMap.getElem?_insert] at hfound
      split at hfound
      · cases hfound
        exact Std.ExtTreeSet.ne_empty_of_mem Std.ExtTreeSet.mem_insert_self
      · exact hindex other found hfound

/-- A pass whose usage is new becomes a provider of what it declares, and of nothing else. -/
theorem Matched.insert {dependencies : Dependencies} (hmatched : dependencies.Matched)
    {id : PassId} (hnew : id ∉ dependencies.usages) (usage : Usage) :
    (dependencies.insert id usage).Matched where
  inverse provider capability := by
    have hnone : dependencies.usages[id]? = none := Std.ExtTreeMap.getElem?_eq_none hnew
    rw [← mem_providing_iff, mem_providing_insert, mem_providing_iff,
      hmatched.inverse provider capability]
    have husages : (dependencies.insert id usage).usages[provider]? =
        if id = provider then some usage else dependencies.usages[provider]? := by
      simp [Dependencies.insert, Std.ExtTreeMap.getElem?_insert]
    rw [husages]
    by_cases hprovider : id = provider
    · subst hprovider
      simp [hnone]
    · simp [hprovider, Ne.symm hprovider]
  inhabited capability providers hproviders :=
    inhabited_foldl hmatched.inhabited hproviders

end Dependencies

/-! ## Collections -/

namespace Site

/-- The listed passes are in the catalogue, and they are the ones that have been asked since
`site`. -/
structure Gathers (site : Site) (asked : List PassId) (after : Site) : Prop where
  known : ∀ id ∈ asked, ∃ pass, site.world.catalog.find? id = some pass
  mem_usages : ∀ id, id ∈ after.manager.dependencies.usages ↔
    id ∈ site.manager.dependencies.usages ∨ id ∈ asked
  mem_selected : ∀ id, id ∈ after.manager.selected ↔
    id ∈ site.manager.selected ∨
      (id ∈ asked ∧ ∃ pass, site.world.catalog.find? id = some pass ∧ pass.selected = true)

theorem gathers_nil (site : Site) : site.Gathers [] site where
  known := by simp
  mem_usages id := by simp
  mem_selected id := by simp

theorem Gathers.cons {site after : Site} {id : PassId} {pass : Descriptor} {asked : List PassId}
    (hfind : site.world.catalog.find? id = some pass) (hunmet : site.Unmet id)
    (hafter : (site.asked pass id).Gathers asked after) : site.Gathers (id :: asked) after := by
  obtain ⟨trace, hasked⟩ := asked_frame hunmet pass
  rw [hasked] at hafter
  refine ⟨?_, ?_, ?_⟩
  · intro other hother
    rcases List.mem_cons.mp hother with rfl | hother
    · exact ⟨pass, hfind⟩
    · exact hafter.known other hother
  · intro other
    rw [hafter.mem_usages, List.mem_cons]
    simp only [Dependencies.insert, Std.ExtTreeMap.mem_insert, Std.LawfulEqCmp.compare_eq_iff_eq]
    grind
  · intro other
    rw [hafter.mem_selected, List.mem_cons]
    cases hselected : pass.selected with
    | false => grind
    | true =>
        simp only [if_true, Std.ExtTreeSet.mem_insert, Std.LawfulEqCmp.compare_eq_iff_eq]
        grind

/-- A collection has asked all the listed passes, or it has come to one that is not in the
catalogue. -/
theorem Collects.gathers {ids : List PassId} {site : Site}
    {result : Except PassError Unit × Site} (hcollects : Collects ids site result) :
    (result.1 = .ok () ∧ site.Gathers ids result.2) ∨
    ∃ before missing rest, ids = before ++ missing :: rest ∧
      site.world.catalog.find? missing = none ∧ result.1 = .error (.unknownPass missing) ∧
      site.Gathers before result.2 := by
  induction hcollects with
  | @done site => exact Or.inl ⟨rfl, site.gathers_nil⟩
  | @unknown site id rest hfind => exact Or.inr ⟨[], id, rest, rfl, hfind, rfl, site.gathers_nil⟩
  | @asked site id rest pass result hfind hunmet _ ih =>
      rcases ih with ⟨hok, hgathers⟩ | ⟨before, missing, later, rfl, hmissing, herror, hgathers⟩
      · exact Or.inl ⟨hok, hgathers.cons hfind hunmet⟩
      · rw [catalog_asked hunmet] at hmissing
        exact Or.inr ⟨id :: before, missing, later, rfl, hmissing, herror,
          hgathers.cons hfind hunmet⟩

theorem Collects.matched {ids : List PassId} {site : Site}
    {result : Except PassError Unit × Site} (hcollects : Collects ids site result)
    (hmatched : site.manager.dependencies.Matched) :
    result.2.manager.dependencies.Matched := by
  induction hcollects with
  | done => exact hmatched
  | unknown _ => exact hmatched
  | @asked site id rest pass result _ hunmet _ ih =>
      obtain ⟨trace, hasked⟩ := asked_frame hunmet pass
      refine ih ?_
      rw [hasked]
      exact hmatched.insert hunmet.uncollected pass.behaviour.usage

theorem mem_before_iff {ids : IdSet} {before rest : List PassId} {bound id : PassId}
    (hsplit : ids.toList = before ++ bound :: rest) :
    id ∈ before ↔ id ∈ ids ∧ id.toNat < bound.toNat := by
  have hordered := ids.ordered_toList
  rw [hsplit, List.pairwise_append, List.pairwise_cons] at hordered
  obtain ⟨-, ⟨hrest, -⟩, hbefore⟩ := hordered
  rw [← Std.ExtTreeSet.mem_toList, hsplit]
  constructor
  · intro hid
    exact ⟨List.mem_append_left _ hid,
      PassId.compare_eq_lt.mp (hbefore id hid bound List.mem_cons_self)⟩
  · rintro ⟨hid, hless⟩
    rcases List.mem_append.mp hid with hid | hid
    · exact hid
    · rcases List.mem_cons.mp hid with rfl | hid
      · omega
      · have := PassId.compare_eq_lt.mp (hrest id hid)
        omega

/-- A collection has asked just the passes that satisfy the condition, all of which are in the
catalogue. -/
structure Gathered (site : Site) (asked : PassId → Prop) : Prop where
  known : ∀ id, asked id → ∃ pass, site.world.catalog.find? id = some pass
  mem_usages : ∀ id, id ∈ site.collect.2.manager.dependencies.usages ↔ asked id
  mem_selected : ∀ id, id ∈ site.collect.2.manager.selected ↔
    asked id ∧ ∃ pass, site.world.catalog.find? id = some pass ∧ pass.selected = true

theorem Gathers.gathered {site : Site} {asked : List PassId} {condition : PassId → Prop}
    (hgathers : site.forget.Gathers asked site.collect.2)
    (hasked : ∀ id, id ∈ asked ↔ condition id) : site.Gathered condition where
  known id hid := hgathers.known id ((hasked id).mpr hid)
  mem_usages id := by
    rw [hgathers.mem_usages, hasked]
    simp [(site.unmet_forget id).uncollected]
  mem_selected id := by
    rw [hgathers.mem_selected, hasked]
    simp only [(site.unmet_forget id).unselected, false_or]
    rfl

/-- A collection is complete, or it ends at the first pass under management that is not in the
catalogue. -/
theorem collect_cases (site : Site) :
    (site.collect.1 = .ok () ∧ site.Gathered (· ∈ site.manager.managed)) ∨
    ∃ missing ∈ site.manager.managed, site.world.catalog.find? missing = none ∧
      site.collect.1 = .error (.unknownPass missing) ∧
      site.Gathered fun id => id ∈ site.manager.managed ∧ id.toNat < missing.toNat := by
  rcases site.collects_collect.gathers with
    ⟨hok, hgathers⟩ | ⟨before, missing, rest, hsplit, hmissing, herror, hgathers⟩
  · exact Or.inl ⟨hok, hgathers.gathered fun id => Std.ExtTreeSet.mem_toList⟩
  · have hmanaged : missing ∈ site.manager.managed := by
      rw [← Std.ExtTreeSet.mem_toList, hsplit]
      exact List.mem_append_right before List.mem_cons_self
    exact Or.inr ⟨missing, hmanaged, hmissing, herror,
      hgathers.gathered fun id => mem_before_iff hsplit⟩

end Site

/-! ## Histories -/

namespace Manager

/-- What holds of the indexes at all times. -/
structure Indexed (manager : Manager) : Prop where
  matched : manager.dependencies.Matched
  managed : ∀ id ∈ manager.dependencies.usages, id ∈ manager.managed
  own_managed : manager.own ∈ manager.managed

/-- What can be done to a manager. -/
inductive Operation where
  | add (id : PassId)
  | setDefaultPass (id : PassId)
  | setDefaultResults (results : Results)
  | setStream (stream : Stream)
  | collect
  | dump
  | run (timing : Timing)

end Manager

/-- The site after an operation, however it has ended. -/
def Site.operate (site : Site) : Manager.Operation → Site
  | .add id => ⟨(site.manager.add site.world id).2.1, (site.manager.add site.world id).2.2⟩
  | .setDefaultPass id => site.update ({ · with defaultPass := some id })
  | .setDefaultResults results => site.update ({ · with defaultResults := results })
  | .setStream stream => site.update ({ · with stream })
  | .collect => site.collect.2
  | .dump => site.dump.2
  | .run timing => (site.run timing).2

namespace Manager

/-- The managers that can come about.  Between two operations the world may change in any
way.  An instance that dies where it is made, asked or set up cuts a collection or a run
short: the usages collected up to there stay, and nothing is said about what becomes of the
selection, the schedule, the results and the counters. -/
inductive Arises : Manager → Prop
  | created {world after : World} {settings : Settings} {manager : Manager}
      (hcreate : create world settings = .ok (manager, after)) : Arises manager
  | operated {manager : Manager} (harises : Arises manager) (world : World)
      (operation : Operation) : Arises ((⟨manager, world⟩ : Site).operate operation).manager
  | died {manager after : Manager} (harises : Arises manager) (world : World)
      {asked : List PassId} (hasked : asked <+: manager.managed.toList)
      (hown : after.own = manager.own) (hmanaged : after.managed = manager.managed)
      (hdependencies : after.dependencies =
        (Site.collectFrom asked (⟨manager, world⟩ : Site).forget).2.manager.dependencies) :
      Arises after

theorem indexed_create {world after : World} {settings : Settings} {manager : Manager}
    (hcreate : create world settings = .ok (manager, after)) : manager.Indexed := by
  rw [create] at hcreate
  split at hcreate
  · cases hcreate
  · cases hcreate
    exact ⟨Dependencies.matched_empty, by simp, Std.ExtTreeSet.mem_insert_self⟩

/-- Indexes that were collected from some of the passes under management, from the lowest
on, are as they should be. -/
theorem indexed_of_collected (site : Site) (hindexed : site.manager.Indexed)
    {asked : List PassId} (hasked : asked <+: site.manager.managed.toList) {after : Manager}
    (hown : after.own = site.manager.own) (hmanaged : after.managed = site.manager.managed)
    (hdependencies :
      after.dependencies = (Site.collectFrom asked site.forget).2.manager.dependencies) :
    after.Indexed := by
  have hcollects := Site.collects_prefix hasked
  have hwithin : ∀ id ∈ (Site.collectFrom asked site.forget).2.manager.dependencies.usages,
      id ∈ asked := by
    intro id hid
    have hunmet := (site.unmet_forget id).uncollected
    rcases hcollects.gathers with ⟨-, hgathers⟩ | ⟨before, missing, rest, rfl, -, -, hgathers⟩
    · exact ((hgathers.mem_usages id).mp hid).resolve_left hunmet
    · exact List.mem_append_left _ (((hgathers.mem_usages id).mp hid).resolve_left hunmet)
  refine ⟨?_, ?_, ?_⟩
  · rw [hdependencies]
    exact hcollects.matched Dependencies.matched_empty
  · intro id hid
    rw [hdependencies] at hid
    rw [hmanaged, ← Std.ExtTreeSet.mem_toList]
    exact hasked.subset (hwithin id hid)
  · rw [hown, hmanaged]
    exact hindexed.own_managed

theorem indexed_operate (site : Site) (hindexed : site.manager.Indexed)
    (operation : Operation) : (site.operate operation).manager.Indexed := by
  cases operation with
  | add id =>
      rw [Site.operate, add]
      split
      · split <;> exact hindexed
      · have hgrown : ∀ other ∈ site.manager.managed, other ∈ site.manager.managed.insert id := by
          intro other hother
          exact Std.ExtTreeSet.mem_insert.mpr (Or.inr hother)
        exact ⟨hindexed.matched, fun other hother => hgrown other (hindexed.managed other hother),
          hgrown _ hindexed.own_managed⟩
  | setDefaultPass id => exact ⟨hindexed.matched, hindexed.managed, hindexed.own_managed⟩
  | setDefaultResults results => exact ⟨hindexed.matched, hindexed.managed, hindexed.own_managed⟩
  | setStream stream => exact ⟨hindexed.matched, hindexed.managed, hindexed.own_managed⟩
  | collect =>
      obtain ⟨selected, dependencies, trace, hframe⟩ := site.collect_frame
      exact indexed_of_collected site hindexed List.prefix_rfl (by rw [Site.operate, hframe])
        (by rw [Site.operate, hframe]) rfl
  | dump =>
      obtain ⟨stream, hframe⟩ := site.dump_frame
      rw [Site.operate, hframe]
      exact ⟨hindexed.matched, hindexed.managed, hindexed.own_managed⟩
  | run timing =>
      obtain ⟨selected, schedule, results, stream, metrics, hframe⟩ := site.run_frame timing
      exact indexed_of_collected site hindexed List.prefix_rfl (by rw [Site.operate, hframe])
        (by rw [Site.operate, hframe]) (by rw [Site.operate, hframe]; rfl)

theorem Arises.indexed {manager : Manager} (harises : manager.Arises) : manager.Indexed := by
  induction harises with
  | created hcreate => exact indexed_create hcreate
  | @operated manager _ world operation ih =>
      exact indexed_operate ⟨manager, world⟩ ih operation
  | @died manager after _ world asked hasked hown hmanaged hdependencies ih =>
      exact indexed_of_collected ⟨manager, world⟩ ih hasked hown hmanaged hdependencies

/-- Whatever has been done to a manager, its indexes match, and they are about passes under
management.  Whatever the world is then, a collection is complete, or it refuses the first
pass under management that is not in the catalogue and has collected up to there; it never
refuses a pass for being selected already. -/
theorem indexes_inverse {manager : Manager} (harises : manager.Arises) :
    manager.Indexed ∧ ∀ world : World,
      (((⟨manager, world⟩ : Site).collect.1 = .ok () ∧
          (⟨manager, world⟩ : Site).Gathered (· ∈ manager.managed)) ∨
        ∃ missing ∈ manager.managed, world.catalog.find? missing = none ∧
          (⟨manager, world⟩ : Site).collect.1 = .error (.unknownPass missing) ∧
          (⟨manager, world⟩ : Site).Gathered fun id =>
            id ∈ manager.managed ∧ id.toNat < missing.toNat) ∧
      ∀ arg, (⟨manager, world⟩ : Site).collect.1 ≠ .error (.alreadySelected arg) := by
  refine ⟨harises.indexed, fun world => ⟨Site.collect_cases ⟨manager, world⟩, ?_⟩⟩
  intro arg hrefused
  rcases Site.collect_cases ⟨manager, world⟩ with ⟨hok, -⟩ | ⟨missing, -, -, herror, -⟩
  · exact absurd (hok.symm.trans hrefused) nofun
  · exact absurd (herror.symm.trans hrefused) nofun

/-- The manager's own pass, and pass `1`, which writes when it runs and provides the listed
capabilities. -/
def feed (capabilities : List PassId) : Catalog :=
  ({ admission := .free } : Catalog)
    |>.install ⟨0⟩ registration
    |>.install ⟨1⟩ {
      name := "Feed", arg := "feed"
      behaviour := {
        declarations := capabilities.map .provide
        run := .perform (.write "fed") fun _ => .done { succeeded := true } } }

/-- The world of the first run: pass `2` is in the catalogue. -/
def fed : World where
  catalog := (feed [⟨2⟩, ⟨3⟩]).install ⟨2⟩
    { name := "Sink", arg := "sink", behaviour := { run := .done { succeeded := true } } }

/-- The world of the second run. -/
def starved : World where
  catalog := feed [⟨3⟩]

/-- Manages the passes `0` to `2`, runs pass `1` by default, and writes to a stream that dies. -/
def feeder : Manager where
  own := ⟨0⟩
  managed := (∅ : IdSet).insert ⟨0⟩ |>.insert ⟨1⟩ |>.insert ⟨2⟩
  defaultPass := some ⟨1⟩
  stream := .ofWriter .fatal

theorem arises_feeder : feeder.Arises := by
  have hcreate : create fed {} =
      .ok ({ own := ⟨0⟩, managed := (∅ : IdSet).insert ⟨0⟩ }, fed.log (managing ⟨0⟩)) := rfl
  have hone := (Arises.created hcreate).operated fed (.add ⟨1⟩)
  have htwo := (hone.operated fed (.add ⟨2⟩)).operated fed (.setDefaultPass ⟨1⟩)
  exact htwo.operated fed (.setStream (.ofWriter .fatal))

/-- The first run dies in pass `1`. -/
def struck : Manager := ((⟨feeder, fed⟩ : Site).operate (.run {})).manager

theorem indexes_inverse_struck :
    struck.Arises ∧ ((⟨feeder, fed⟩ : Site).run {}).1 = .error .panicked ∧ struck.Indexed ∧
    (∃ providers, struck.dependencies.providers[(⟨2⟩ : PassId)]? = some providers ∧
      ⟨1⟩ ∈ providers) ∧
    (⟨struck, starved⟩ : Site).collect.1 = .error (.unknownPass ⟨2⟩) ∧
    (⟨struck, starved⟩ : Site).Gathered fun id => id ∈ struck.managed ∧ id.toNat < 2 := by
  have harises : struck.Arises := arises_feeder.operated fed (.run {})
  have hmanaged : struck.managed.toList = [⟨0⟩, ⟨1⟩, ⟨2⟩] := by decide +kernel
  have hdeclared : struck.dependencies.usages[(⟨1⟩ : PassId)]? =
      some (.ofDeclarations [.provide ⟨2⟩, .provide ⟨3⟩]) := by
    obtain ⟨_, _, _, _, _, hframe⟩ := (⟨feeder, fed⟩ : Site).run_frame {}
    rw [struck, Site.operate, hframe]
    rfl
  -- The second catalogue lacks pass `2`, and nothing else that is managed.
  have hthere : (starved.catalog.find? ⟨0⟩).isSome = true ∧
      (starved.catalog.find? ⟨1⟩).isSome = true ∧ (starved.catalog.find? ⟨2⟩).isSome = false := by
    decide
  obtain ⟨hindexed, hcollect⟩ := indexes_inverse harises
  refine ⟨harises, by decide +kernel, hindexed, ?_, ?_⟩
  · exact (hindexed.matched.inverse ⟨1⟩ ⟨2⟩).mpr ⟨_, hdeclared, by decide⟩
  · rcases (hcollect starved).1 with ⟨-, hgathered⟩ | ⟨missing, hmissing, hfind, herror, hgathered⟩
    · have htwo : (⟨2⟩ : PassId) ∈ struck.managed := by
        rw [← Std.ExtTreeSet.mem_toList, hmanaged]
        decide
      obtain ⟨pass, hpass⟩ := hgathered.known ⟨2⟩ htwo
      simp [show starved.catalog.find? ⟨2⟩ = some pass from hpass] at hthere
    · rw [← Std.ExtTreeSet.mem_toList, hmanaged] at hmissing
      obtain rfl : missing = ⟨2⟩ := by
        simp only [List.mem_cons, List.not_mem_nil, or_false] at hmissing
        rcases hmissing with rfl | rfl | rfl
        · simp [hfind] at hthere
        · simp [hfind] at hthere
        · rfl
      exact ⟨herror, hgathered⟩

end Manager

end PassPipeline
