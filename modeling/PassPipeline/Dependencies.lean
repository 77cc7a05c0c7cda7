import PassPipeline.Usage

/-!
# Collected dependencies

What the passes under management declare is kept in two indexes: the usage of each
pass, and for each capability the passes that provide it.  The children of a pass are
the passes that have to run before it: those it requires, then those that provide
it, each group in ascending order.
-/

namespace PassPipeline

/-- The indexes that a collection builds. -/
structure Dependencies where
  usages : IdMap Usage := ∅
  /-- The providers of each capability. -/
  providers : IdMap IdSet := ∅

namespace Dependencies

/-- Adds the usage of a pass, and the pass to the providers of its capabilities. -/
def insert (dependencies : Dependencies) (id : PassId) (usage : Usage) : Dependencies where
  usages := dependencies.usages.insert id usage
  providers := usage.provides.toList.foldl
    (fun providers capability =>
      providers.insert capability ((providers.getD capability ∅).insert id))
    dependencies.providers

/-- The passes that a pass requires, in ascending order. -/
def required (dependencies : Dependencies) (id : PassId) : List PassId :=
  match dependencies.usages[id]? with
  | some usage => usage.requires.toList
  | none => []

/-- The passes that provide a pass, in ascending order. -/
def providing (dependencies : Dependencies) (id : PassId) : List PassId :=
  match dependencies.providers[id]? with
  | some providers => providers.toList
  | none => []

/-- The passes that have to run before a pass. -/
def children (dependencies : Dependencies) (id : PassId) : List PassId :=
  dependencies.required id ++ dependencies.providing id

theorem mem_providing {dependencies : Dependencies} {provider capability : PassId} :
    provider ∈ dependencies.providing capability ↔
      provider ∈ dependencies.providers.getD capability ∅ := by
  unfold providing
  rw [Std.ExtTreeMap.getD_eq_getD_getElem?]
  split
  · next providers hproviders => simp [hproviders]
  · next hnone => simp [hnone]

/-- A pass becomes a provider of the capabilities of its usage, and of no other. -/
theorem mem_providing_insert {dependencies : Dependencies} {id provider capability : PassId}
    {usage : Usage} :
    provider ∈ (dependencies.insert id usage).providing capability ↔
      (provider = id ∧ capability ∈ usage.provides) ∨
        provider ∈ dependencies.providing capability := by
  have hfold : ∀ (capabilities : List PassId) (providers : IdMap IdSet),
      provider ∈ (capabilities.foldl
          (fun providers capability =>
            providers.insert capability ((providers.getD capability ∅).insert id))
          providers).getD capability ∅ ↔
        (provider = id ∧ capability ∈ capabilities) ∨ provider ∈ providers.getD capability ∅ := by
    intro capabilities
    induction capabilities with
    | nil => simp
    | cons first rest ih =>
      intro providers
      rw [List.foldl_cons, ih, Std.ExtTreeMap.getD_insert, List.mem_cons]
      by_cases hfirst : first = capability
      · subst hfirst
        simp [Std.ExtTreeSet.mem_insert]
        grind
      · simp [hfirst, Ne.symm hfirst]
  rw [mem_providing, mem_providing, insert, hfold]
  simp

end Dependencies

end PassPipeline
