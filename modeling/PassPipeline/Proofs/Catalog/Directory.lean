import PassPipeline.Metrics
import PassPipeline.Proofs.Catalog.Lookup

/-!
# A catalogue with indexes

A directory is a numbered catalogue as one would keep it for speed: the entries stand in a
list at their numbers, and two indexes tell the numbers of the names and of the arguments.
Only the short arguments are looked for among the entries.

A registration consults the indexes before it adds to all three, and nothing else changes the
indexes.  If the indexes are right before, they are right afterwards: a directory goes on
mirroring the catalogue to which the same is done (`Mirrors`), which has no indexes to be wrong.
-/

namespace PassPipeline

/-- A numbered catalogue with an index of the names and an index of the arguments. -/
structure Directory where
  passes : List Descriptor := []
  byName : NameMap PassId := ∅
  byArg : NameMap PassId := ∅

namespace Directory

/-- The entry with that identity, or the refusal that names it. -/
def info (directory : Directory) (id : PassId) : Except PassError Descriptor :=
  match directory.passes[id.toNat]? with
  | some pass => .ok pass
  | none => .error (.unknownPass id)

def findName (directory : Directory) (name : String) : Option PassId := directory.byName[name]?

def findArg (directory : Directory) (arg : String) : Option PassId := directory.byArg[arg]?

/-- The refusal of a registration whose name or arguments are taken. -/
def conflict? (directory : Directory) (registration : Registration) : Option PassError :=
  if directory.byName.contains registration.name then
    some (.duplicateName registration.name)
  else if directory.byArg.contains registration.arg then
    some (.duplicateArg registration.arg)
  else
    match registration.short with
    | some short =>
      if directory.passes.any (·.short == some short) then
        some (.duplicateArg short.toString)
      else none
    | none => none

/-- Adds an entry behind the others, and to the indexes. -/
def install (directory : Directory) (id : PassId) (registration : Registration) : Directory where
  passes := directory.passes ++ [{ registration with id }]
  byName := directory.byName.insert registration.name id
  byArg := directory.byArg.insert registration.arg id

/-- Registers a pass type, unless that would repeat a name or an argument. -/
def register (directory : Directory) (registration : Registration) :
    Except PassError (PassId × Directory) :=
  match directory.conflict? registration with
  | some error => .error error
  | none =>
    let id := PassId.ofNat directory.passes.length
    .ok (id, directory.install id registration)

/-- Changes the entry with that identity, if there is one. -/
def update (directory : Directory) (id : PassId) (change : Descriptor → Descriptor) : Directory :=
  { directory with passes := directory.passes.modify id.toNat change }

/-- Changes the entry with that identity, which has to be there. -/
def updateKnown (directory : Directory) (id : PassId) (change : Descriptor → Descriptor) :
    Except PassError Directory :=
  (directory.info id).map fun _ => directory.update id change

/-- Sets the selection flag of the pass with that argument. -/
def selectArg (directory : Directory) (arg : String) : Except PassError (PassId × Directory) :=
  match directory.findArg arg with
  | none => .error (.unknownArg arg)
  | some id =>
    (directory.updateKnown id ({ · with selected := true })).map fun selected => (id, selected)

/-- Clears every selection flag. -/
def clearSelection (directory : Directory) : Directory :=
  { directory with passes := directory.passes.map fun pass => { pass with selected := false } }

/-- The directory has the entries of an orderly catalogue, and its indexes are right. -/
structure Mirrors (directory : Directory) (catalog : Catalog) : Prop where
  orderly : catalog.Orderly
  passes_eq : directory.passes = catalog.descriptors
  findName_eq : ∀ name, directory.findName name = catalog.findName name
  findArg_eq : ∀ arg, directory.findArg arg = catalog.findArg arg

variable {directory : Directory} {catalog : Catalog} {id : PassId} {registration : Registration}

theorem mirrors_empty : ({} : Directory).Mirrors {} where
  orderly := Catalog.orderly_empty
  passes_eq := by
    refine (List.eq_nil_of_length_eq_zero ?_).symm
    rw [Catalog.length_descriptors]
    rfl
  findName_eq name := by simp [findName, Catalog.findName, Catalog.search]
  findArg_eq arg := by simp [findArg, Catalog.findArg, Catalog.search]

/-! ## What is answered -/

theorem Mirrors.info_eq (hmirrors : directory.Mirrors catalog) (id : PassId) :
    directory.info id = catalog.info id := by
  have hentry : directory.passes[id.toNat]? = catalog.find? id := by
    rw [hmirrors.passes_eq, hmirrors.orderly.getElem?_descriptors hmirrors.orderly.few]
  rcases hfind : catalog.find? id with _ | pass
  · simp [info, Catalog.info, hentry, hfind]
  · simp [info, Catalog.info, hentry, hfind]

theorem Mirrors.conflict?_eq (hmirrors : directory.Mirrors catalog)
    (registration : Registration) :
    directory.conflict? registration = catalog.conflict? registration := by
  have hname : directory.byName.contains registration.name =
      (catalog.findName registration.name).isSome := by
    rw [← hmirrors.findName_eq, findName, Std.ExtTreeMap.contains_eq_isSome_getElem?]
  have harg : directory.byArg.contains registration.arg =
      (catalog.findArg registration.arg).isSome := by
    rw [← hmirrors.findArg_eq, findArg, Std.ExtTreeMap.contains_eq_isSome_getElem?]
  -- There is no index of short forms, so both registries search their passes.
  have hshort : ∀ short, directory.passes.any (·.short == some short) =
      catalog.usesShort short := by
    intro short
    rw [hmirrors.passes_eq, Bool.eq_iff_iff, Catalog.usesShort,
      catalog.search_isSome_iff (Catalog.short_beq_iff short), List.any_eq_true]
    constructor
    · rintro ⟨pass, hmem, hsame⟩
      obtain ⟨id, hfind⟩ := Catalog.mem_descriptors_iff.mp hmem
      exact ⟨id, pass.card, Catalog.card?_eq_some_iff.mpr ⟨pass, hfind, rfl⟩,
        (Catalog.short_beq_iff short pass).mp hsame⟩
    · rintro ⟨id, card, hcard, hvalue⟩
      obtain ⟨pass, hfind, rfl⟩ := Catalog.card?_eq_some_iff.mp hcard
      exact ⟨pass, Catalog.mem_descriptors_iff.mpr ⟨id, hfind⟩,
        (Catalog.short_beq_iff short pass).mpr hvalue⟩
  rw [conflict?, Catalog.conflict?, hname, harg]
  rcases registration.short with _ | short
  · rfl
  · simp only [hshort]

/-! ## What is done -/

theorem findName_install (name : String) :
    (directory.install id registration).findName name =
      if registration.name = name then some id else directory.findName name := by
  simp [findName, install, Std.ExtTreeMap.getElem?_insert]

theorem findArg_install (arg : String) :
    (directory.install id registration).findArg arg =
      if registration.arg = arg then some id else directory.findArg arg := by
  simp [findArg, install, Std.ExtTreeMap.getElem?_insert]

theorem Mirrors.register (hmirrors : directory.Mirrors catalog) {after : Catalog}
    (hroom : catalog.size < 2 ^ 32)
    (hregister : catalog.register registration = .ok (id, after)) :
    directory.register registration = .ok (id, directory.install id registration) ∧
      (directory.install id registration).Mirrors after := by
  have horderly := hmirrors.orderly
  obtain ⟨hafter, hpasses⟩ := horderly.register hroom hregister
  obtain ⟨hnone, hid, rfl⟩ := Catalog.register_eq_ok_iff.mp hregister
  have hlength : directory.passes.length = catalog.size := by
    rw [hmirrors.passes_eq, Catalog.length_descriptors]
  -- The number that is handed out is the size, and no entry has it.
  have hnew : catalog.card? id = none := by
    rw [← Option.not_isSome_iff_eq_none, Option.isSome_iff_exists]
    rintro ⟨card, hcard⟩
    obtain ⟨pass, hpass, -⟩ := Catalog.card?_eq_some_iff.mp hcard
    have hless := (horderly.mem_iff id).mp (Catalog.mem_entries_iff.mpr ⟨pass, hpass⟩)
    rw [hid, PassId.toNat_ofNat hroom] at hless
    omega
  obtain ⟨hname, harg, -⟩ := Catalog.conflict?_eq_none_iff.mp hnone
  refine ⟨?_, hafter, ?_, fun name => ?_, fun arg => ?_⟩
  · rw [Directory.register, hmirrors.conflict?_eq, hnone, hlength, hid]
  · rw [install, hpasses, hmirrors.passes_eq]
  · -- An index and a search both learn of the new key alone.
    have hsearch := horderly.names.search_install hafter.names (Catalog.name_beq_iff name) hnew
      (by rintro _ ⟨⟩; exact hname)
    rw [findName_install, hmirrors.findName_eq, Catalog.findName, Catalog.findName, hsearch]
    simp [Card.naming, Registration.card]
  · have hsearch := horderly.args.search_install hafter.args (Catalog.arg_beq_iff arg) hnew
      (by rintro _ ⟨⟩; exact harg)
    rw [findArg_install, hmirrors.findArg_eq, Catalog.findArg, Catalog.findArg, hsearch]
    simp [Card.calling, Registration.card]

theorem Mirrors.update (hmirrors : directory.Mirrors catalog) (id : PassId)
    {change : Descriptor → Descriptor} (hchange : ∀ pass, (change pass).card = pass.card) :
    (directory.update id change).Mirrors (catalog.update id change) := by
  obtain ⟨hafter, hpasses⟩ := hmirrors.orderly.update hchange
  have hcards : ∀ other, (catalog.update id change).card? other = catalog.card? other :=
    fun _ => Catalog.card?_update hchange
  refine ⟨hafter, ?_, fun name => ?_, fun arg => ?_⟩
  · rw [Directory.update, hpasses, hmirrors.passes_eq]
  · rw [hmirrors.orderly.findName_congr hafter hcards]
    exact hmirrors.findName_eq name
  · rw [hmirrors.orderly.findArg_congr hafter hcards]
    exact hmirrors.findArg_eq arg

theorem Mirrors.clearSelection (hmirrors : directory.Mirrors catalog) :
    directory.clearSelection.Mirrors catalog.clearSelection := by
  obtain ⟨hafter, hpasses⟩ := hmirrors.orderly.clearSelection
  have hcards : ∀ other, catalog.clearSelection.card? other = catalog.card? other :=
    fun _ => Catalog.card?_clearSelection
  refine ⟨hafter, ?_, fun name => ?_, fun arg => ?_⟩
  · rw [Directory.clearSelection, hpasses, hmirrors.passes_eq]
  · rw [hmirrors.orderly.findName_congr hafter hcards]
    exact hmirrors.findName_eq name
  · rw [hmirrors.orderly.findArg_congr hafter hcards]
    exact hmirrors.findArg_eq arg

end Directory

end PassPipeline
