import PassPipeline.Proofs.Catalog.Lookup

/-!
# Selections by argument

To select a pass by its argument is to set one flag, and to set it again changes nothing.  So
all that a list of arguments comes to is in `marking`, which asks of each pass only whether its
argument is in the list: neither the order of the list nor how often an argument stands there is
to be seen in it (`marking_congr`).
-/

namespace PassPipeline

/-- The flag is set if the argument is among those. -/
def Descriptor.marked (pass : Descriptor) (args : List String) : Descriptor :=
  if pass.arg ∈ args then { pass with selected := true } else pass

namespace Descriptor

variable (pass : Descriptor) (args more : List String)

theorem toRegistration_marked : (pass.marked args).toRegistration = pass.toRegistration := by
  unfold marked
  split <;> rfl

theorem card_marked : (pass.marked args).card = pass.card := by
  unfold marked
  split <;> rfl

theorem selected_marked :
    (pass.marked args).selected = true ↔ pass.arg ∈ args ∨ pass.selected = true := by
  unfold marked
  split
  · next hmem => simp [hmem]
  · next hmem => simp [hmem]

theorem marked_marked : (pass.marked args).marked more = pass.marked (args ++ more) := by
  have harg : (pass.marked args).arg = pass.arg :=
    congrArg Registration.arg (pass.toRegistration_marked args)
  by_cases hargs : pass.arg ∈ args <;> by_cases hmore : pass.arg ∈ more <;>
    simp [marked, hargs, hmore]

end Descriptor

namespace Catalog

variable {catalog : Catalog} {args more : List String} {arg : String} {id : PassId}

theorem ext_find? {first second : Catalog} (hadmission : first.admission = second.admission)
    (hfind : ∀ id, first.find? id = second.find? id) : first = second := by
  have hentries : first.entries = second.entries := Std.ExtTreeMap.ext_getElem? fun {id} => hfind id
  cases first
  cases second
  exact congrArg₂ Catalog.mk hadmission hentries

/-- The flags of the passes with those arguments are set. -/
def marking (catalog : Catalog) (args : List String) : Catalog :=
  { catalog with entries := catalog.entries.map fun _ pass => pass.marked args }

theorem find?_marking :
    (catalog.marking args).find? id = (catalog.find? id).map (·.marked args) :=
  Std.ExtTreeMap.getElem?_map

theorem marking_congr
    (hargs : ∀ id pass, catalog.find? id = some pass → (pass.arg ∈ args ↔ pass.arg ∈ more)) :
    catalog.marking args = catalog.marking more := by
  refine ext_find? rfl fun id => ?_
  rw [find?_marking, find?_marking]
  rcases hpass : catalog.find? id with _ | pass
  · rfl
  · have hmarked : pass.marked args = pass.marked more := by
      simp only [Descriptor.marked, hargs id pass hpass]
    exact congrArg some hmarked

theorem marking_nil (catalog : Catalog) : catalog.marking [] = catalog := by
  refine ext_find? rfl fun id => ?_
  rw [find?_marking]
  rcases catalog.find? id with _ | pass
  · rfl
  · rfl

theorem marking_marking (catalog : Catalog) (args more : List String) :
    (catalog.marking args).marking more = catalog.marking (args ++ more) := by
  refine ext_find? rfl fun id => ?_
  rw [find?_marking, find?_marking, find?_marking, Option.map_map]
  exact congrArg (Option.map · _) (funext fun pass => pass.marked_marked args more)

theorem card?_marking : (catalog.marking args).card? id = catalog.card? id := by
  rw [card?, card?, find?_marking, Option.map_map]
  exact congrArg (Option.map · _) (funext fun pass => pass.card_marked args)

theorem Orderly.marking (horderly : catalog.Orderly) (args : List String) :
    (catalog.marking args).Orderly := by
  have hsize : (catalog.marking args).size = catalog.size := Std.ExtTreeMap.size_map
  have hnumbered : (catalog.marking args).Numbered := ⟨fun id => by
    rw [hsize, ← horderly.mem_iff, mem_entries_iff, mem_entries_iff]
    simp [find?_marking]⟩
  exact horderly.of_cards hnumbered hsize fun _ => card?_marking

theorem Orderly.findArg_marking (horderly : catalog.Orderly) (args : List String) (arg : String) :
    (catalog.marking args).findArg arg = catalog.findArg arg :=
  horderly.findArg_congr (horderly.marking args) (fun _ => card?_marking) arg

theorem retains_marking (catalog : Catalog) (args : List String) :
    catalog.Retains (catalog.marking args) := by
  rintro id registration ⟨pass, hfind, hregistration, hid⟩
  have hcard := congrArg Card.id (pass.card_marked args)
  exact ⟨pass.marked args, by rw [find?_marking, hfind]; rfl,
    (pass.toRegistration_marked args).trans hregistration, hcard.trans hid⟩

/-! ## One selection after the other -/

/-- The pass with that argument is the only one that it can mean. -/
theorem Orderly.selectArg_eq (horderly : catalog.Orderly) (hfound : catalog.findArg arg = some id) :
    catalog.selectArg arg = .ok (id, catalog.marking [arg]) := by
  obtain ⟨pass, hfind, harg⟩ := horderly.findArg_eq_some_iff.mp hfound
  have hupdate : catalog.update id ({ · with selected := true }) = catalog.marking [arg] := by
    refine ext_find? ?_ fun other => ?_
    · rw [Catalog.update, hfind]
      rfl
    · rw [find?_update, find?_marking]
      split
      · next hsame =>
        subst hsame
        rw [hfind]
        simp [Descriptor.marked, harg]
      · next hne =>
        rcases hother : catalog.find? other with _ | another
        · rfl
        · have hfar : another.arg ≠ arg := by
            intro hsame
            have hagain := horderly.findArg_eq_some_iff.mpr ⟨another, hother, hsame⟩
            exact hne (Option.some.inj (hfound.symm.trans hagain))
          simp [Descriptor.marked, hfar]
  rw [selectArg, hfound]
  dsimp only
  rw [setSelected, updateKnown, info_eq_ok_iff.mpr hfind, hupdate]
  rfl

theorem selectArg_eq_error (hnone : catalog.findArg arg = none) :
    catalog.selectArg arg = .error (.unknownArg arg) := by
  rw [selectArg, hnone]

end Catalog

end PassPipeline
