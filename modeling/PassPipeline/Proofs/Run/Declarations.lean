import PassPipeline.Proofs.History.Indexes

/-!
# What a complete collection has learned

After a collection that was not cut short, the children of a pass are what the passes under
management declare in the catalogue: those that the pass requires, and then those that provide
it.  Nothing else has an influence on them, and none of them is listed twice in its group.
-/

namespace PassPipeline

open Dependencies

namespace Site

/-- The pass is under management, and in the catalogue it declares this to its manager. -/
def Declares (site : Site) (id : PassId) (declaration : Declaration) : Prop :=
  id ∈ site.manager.managed ∧ ∃ pass, site.world.catalog.find? id = some pass ∧
    declaration ∈ pass.behaviour.internalDeclarations.getD pass.behaviour.declarations

theorem Collects.usages_eq {ids : List PassId} {site : Site}
    {result : Except PassError Unit × Site} (hcollects : Collects ids site result)
    (hok : result.1 = .ok ()) (id : PassId) :
    result.2.manager.dependencies.usages[id]? =
      if id ∈ ids then (site.world.catalog.find? id).map (·.behaviour.usage)
      else site.manager.dependencies.usages[id]? := by
  induction hcollects with
  | done => simp
  | unknown _ => cases hok
  | @asked site first rest pass result hfind hunmet _ ih =>
      obtain ⟨trace, hasked⟩ := asked_frame hunmet pass
      rw [ih hok, hasked]
      by_cases hrest : id ∈ rest
      · rw [if_pos hrest, if_pos (List.mem_cons_of_mem first hrest)]
      · rw [if_neg hrest, Dependencies.insert, Std.ExtTreeMap.getElem?_insert]
        by_cases hfirst : first = id
        · subst hfirst
          simp [hfind]
        · simp [hfirst, Ne.symm hfirst, hrest]

variable {site : Site}

theorem usages_collect (hok : site.collect.1 = .ok ()) (id : PassId) (usage : Usage) :
    site.collect.2.manager.dependencies.usages[id]? = some usage ↔
      id ∈ site.manager.managed ∧ ∃ pass, site.world.catalog.find? id = some pass ∧
        pass.behaviour.usage = usage := by
  have hforgotten : site.forget.manager.dependencies.usages[id]? = none :=
    Std.ExtTreeMap.getElem?_eq_none (site.unmet_forget id).uncollected
  rw [site.collects_collect.usages_eq hok, hforgotten]
  by_cases hid : id ∈ site.manager.managed
  · rw [if_pos (Std.ExtTreeSet.mem_toList.mpr hid), Option.map_eq_some_iff]
    exact ⟨fun hpass => ⟨hid, hpass⟩, fun hpass => hpass.2⟩
  · rw [if_neg (mt Std.ExtTreeSet.mem_toList.mp hid)]
    exact ⟨nofun, fun hpass => absurd hpass.1 hid⟩

theorem mem_required_collect (hok : site.collect.1 = .ok ()) {id required : PassId} :
    required ∈ site.collect.2.manager.dependencies.required id ↔
      site.Declares id (.require required) := by
  have husages := usages_collect hok id
  rw [Dependencies.required]
  cases hfound : site.collect.2.manager.dependencies.usages[id]? with
  | none =>
      refine ⟨nofun, ?_⟩
      rintro ⟨hid, pass, hfind, -⟩
      cases hfound.symm.trans ((husages _).mpr ⟨hid, pass, hfind, rfl⟩)
  | some usage =>
      obtain ⟨hid, pass, hfind, rfl⟩ := (husages usage).mp hfound
      rw [Std.ExtTreeSet.mem_toList, Behaviour.usage, Usage.mem_requires_ofDeclarations]
      constructor
      · intro hdeclared
        exact ⟨hid, pass, hfind, hdeclared⟩
      · rintro ⟨-, other, hother, hdeclared⟩
        cases hfind.symm.trans hother
        exact hdeclared

theorem mem_providing_collect (hok : site.collect.1 = .ok ()) {provider capability : PassId} :
    provider ∈ site.collect.2.manager.dependencies.providing capability ↔
      site.Declares provider (.provide capability) := by
  have hmatched := site.collects_collect.matched matched_empty
  rw [mem_providing_iff, hmatched.inverse]
  constructor
  · rintro ⟨usage, husage, hprovides⟩
    obtain ⟨hid, pass, hfind, rfl⟩ := (usages_collect hok provider usage).mp husage
    exact ⟨hid, pass, hfind, Usage.mem_provides_ofDeclarations.mp hprovides⟩
  · rintro ⟨hid, pass, hfind, hdeclared⟩
    exact ⟨_, (usages_collect hok provider _).mpr ⟨hid, pass, hfind, rfl⟩,
      Usage.mem_provides_ofDeclarations.mpr hdeclared⟩

end Site

namespace Dependencies

theorem nodup_required (dependencies : Dependencies) (id : PassId) :
    (dependencies.required id).Nodup := by
  rw [required]
  split
  · exact IdSet.nodup_toList _
  · exact List.nodup_nil

theorem nodup_providing (dependencies : Dependencies) (id : PassId) :
    (dependencies.providing id).Nodup := by
  rw [providing]
  split
  · exact IdSet.nodup_toList _
  · exact List.nodup_nil

end Dependencies

end PassPipeline
