import PassPipeline.Descriptor

/-!
# The catalogue of pass types

A catalogue maps identities to descriptions.  There are two sorts.  A *numbered*
catalogue hands out identities in registration order, keeps names and arguments
unique and never loses an entry.  An *open* catalogue takes the identities it is
given, replaces what was there, checks nothing, and lets entries be withdrawn.
-/

namespace PassPipeline

/-- The sorts of catalogues. -/
inductive Admission where
  | numbered
  | free
  deriving DecidableEq, Repr, Inhabited

/-- A catalogue of pass types. -/
structure Catalog where
  admission : Admission := .numbered
  entries : IdMap Descriptor := ∅

namespace Catalog

/-- The entries in ascending order of identity. -/
def descriptors (catalog : Catalog) : List Descriptor := catalog.entries.values

/-- The number of entries. -/
def size (catalog : Catalog) : Nat := catalog.entries.size

/-- The entry with that identity. -/
def find? (catalog : Catalog) (id : PassId) : Option Descriptor := catalog.entries[id]?

/-- The entry with that identity, or the refusal that names it. -/
def info (catalog : Catalog) (id : PassId) : Except PassError Descriptor :=
  match catalog.find? id with
  | some descriptor => .ok descriptor
  | none => .error (.unknownPass id)

theorem info_eq_ok_iff {catalog : Catalog} {id : PassId} {pass : Descriptor} :
    catalog.info id = .ok pass ↔ catalog.find? id = some pass := by
  unfold info
  split <;> simp_all

/-- The only refusal is that there is no such entry. -/
theorem info_eq_error_iff {catalog : Catalog} {id : PassId} {error : PassError} :
    catalog.info id = .error error ↔ catalog.find? id = none ∧ error = .unknownPass id := by
  unfold info
  split
  · next pass hpass => simp [hpass]
  · next hnone => simp [hnone, eq_comm]

/-- The lowest identity whose entry satisfies a condition. -/
def search (catalog : Catalog) (condition : Descriptor → Bool) : Option PassId :=
  (catalog.entries.toList.find? fun entry => condition entry.2).map Prod.fst

/-- The lowest identity whose entry has that argument. -/
def findArg (catalog : Catalog) (arg : String) : Option PassId :=
  catalog.search fun descriptor => descriptor.arg == arg

/-- The lowest identity whose entry has that name. -/
def findName (catalog : Catalog) (name : String) : Option PassId :=
  catalog.search fun descriptor => descriptor.name == name

/-- Is the short argument in use? -/
def usesShort (catalog : Catalog) (short : Char) : Bool :=
  (catalog.search fun descriptor => descriptor.short == some short).isSome

/-! ## Registration -/

/-- Puts an entry under an identity, in place of what was there. -/
def install (catalog : Catalog) (id : PassId) (registration : Registration) : Catalog :=
  { catalog with entries := catalog.entries.insert id { registration with id } }

theorem find?_install {catalog : Catalog} {id other : PassId} {registration : Registration} :
    (catalog.install id registration).find? other =
      if id = other then some { registration with id } else catalog.find? other := by
  simp [install, find?, Std.ExtTreeMap.getElem?_insert]

/-- The refusal of a registration whose name or arguments are taken.  The name is
looked at first, then the long and then the short argument. -/
def conflict? (catalog : Catalog) (registration : Registration) : Option PassError :=
  if (catalog.findName registration.name).isSome then
    some (.duplicateName registration.name)
  else if (catalog.findArg registration.arg).isSome then
    some (.duplicateArg registration.arg)
  else
    match registration.short with
    | some short =>
      if catalog.usesShort short then some (.duplicateArg short.toString) else none
    | none => none

/-- Registers a pass type under the next identity, unless that would repeat a name or
an argument. -/
def register (catalog : Catalog) (registration : Registration) :
    Except PassError (PassId × Catalog) :=
  match catalog.conflict? registration with
  | some error => .error error
  | none =>
    let id := PassId.ofNat catalog.size
    .ok (id, catalog.install id registration)

/-- Takes an entry out of an open catalogue, and says whether it was there. -/
def withdraw (catalog : Catalog) (id : PassId) : Bool × Catalog :=
  match catalog.admission with
  | .numbered => (false, catalog)
  | .free => (catalog.entries.contains id, { catalog with entries := catalog.entries.erase id })

/-! ## Changes to entries -/

/-- Changes the entry with that identity, if there is one. -/
def update (catalog : Catalog) (id : PassId) (change : Descriptor → Descriptor) : Catalog :=
  match catalog.find? id with
  | some descriptor => { catalog with entries := catalog.entries.insert id (change descriptor) }
  | none => catalog

theorem find?_update {catalog : Catalog} {id other : PassId} {change : Descriptor → Descriptor} :
    (catalog.update id change).find? other =
      if id = other then (catalog.find? id).map change else catalog.find? other := by
  unfold update
  split
  · next pass hpass =>
    simp [find?, Std.ExtTreeMap.getElem?_insert]
    grind [find?]
  · next hnone => grind

/-- Changes the entry with that identity, which has to be there. -/
def updateKnown (catalog : Catalog) (id : PassId) (change : Descriptor → Descriptor) :
    Except PassError Catalog :=
  (catalog.info id).map fun _ => catalog.update id change

/-- Sets or clears a selection flag. -/
def setSelected (catalog : Catalog) (id : PassId) (selected : Bool) : Except PassError Catalog :=
  catalog.updateKnown id ({ · with selected })

/-- Adds to a change counter. -/
def addChanges (catalog : Catalog) (id : PassId) (count : UInt64) : Except PassError Catalog :=
  catalog.updateKnown id (·.addChanges count)

/-- Sets the selection flag of the pass with that argument. -/
def selectArg (catalog : Catalog) (arg : String) : Except PassError (PassId × Catalog) :=
  match catalog.findArg arg with
  | none => .error (.unknownArg arg)
  | some id => (catalog.setSelected id true).map fun selected => (id, selected)

/-- Clears every selection flag. -/
def clearSelection (catalog : Catalog) : Catalog :=
  { catalog with entries := catalog.entries.map fun _ descriptor =>
      { descriptor with selected := false } }

end Catalog

end PassPipeline
