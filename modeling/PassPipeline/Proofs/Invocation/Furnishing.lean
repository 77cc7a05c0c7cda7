import PassPipeline.Proofs.Invocation.Preparation
import PassPipeline.Proofs.Pipeline.Enrolment
import PassPipeline.Proofs.Pipeline.Planning

/-!
# The catalogue of the program

The program registers the pass of its manager and then the pipeline.  So every pass that it knows
is the one or belongs to the other, and none is selected before the command line has been read
(`exists_furnished`).  What the command line selects is registered, since the command line has
been read by the catalogue (`exists_findArg_of_parse`).
-/

namespace PassPipeline.Invocation

open TextPipeline

/-- A catalogue of the pass of a manager and the pipeline, of which none is selected. -/
structure Furnished (own : PassId) (ids : Ids) (catalog : Catalog) : Prop where
  orderly : catalog.Orderly
  entered : ids.Entered catalog
  offersOwn : catalog.Offers own Manager.registration
  own_notMem : own ∉ ids.all
  known : ∀ ⦃id pass⦄, catalog.find? id = some pass → id = own ∨ id ∈ ids.all
  unselected : ∀ ⦃id pass⦄, catalog.find? id = some pass → pass.selected = false

variable {own : PassId} {ids : Ids} {catalog base : Catalog}

theorem Furnished.findArg_own (hfurnished : Furnished own ids catalog) :
    catalog.findArg Manager.ownArg = some own := by
  obtain ⟨pass, hfind, hregistration, -⟩ := hfurnished.offersOwn
  exact hfurnished.orderly.findArg_eq_some_iff.mpr
    ⟨pass, hfind, congrArg Registration.arg hregistration⟩

theorem catalog?_eq_ok (hcatalog : catalog? = .ok (ids, catalog)) :
    ∃ own base, ({} : Catalog).register Manager.registration = .ok (own, base) ∧
      registerAll.run base = (.ok ids, catalog) := by
  rw [catalog?] at hcatalog
  rcases hown : ({} : Catalog).register Manager.registration with error | ⟨own, base⟩
  · rw [hown] at hcatalog
    cases hcatalog
  · refine ⟨own, base, rfl, ?_⟩
    rw [hown] at hcatalog
    dsimp only [bind, Except.bind] at hcatalog
    rcases hrun : registerAll.run base with ⟨error | found, after⟩
    · rw [hrun] at hcatalog
      cases hcatalog
    · rw [hrun] at hcatalog
      cases hcatalog
      rfl

theorem orderly_registerAll {directory : Directory} (hmirrors : directory.Mirrors base)
    (hrun : registerAll.run base = (.ok ids, catalog)) (hroom : catalog.size < 2 ^ 32) :
    catalog.Orderly := by
  have hafter : (Request.registerPipeline.onCatalog.run base).2 = catalog := by
    rw [Request.onCatalog, run_bind, hrun]
    rfl
  obtain ⟨-, hfollowed⟩ := Request.registerPipeline.follows base directory
  rw [hafter] at hfollowed
  exact (hfollowed hmirrors hroom).2.orderly

/-- The entries of the program. -/
def register : List Descriptor :=
  { Manager.registration with id := .ofNat 0 } :: (Ids.startingAt 1).entries true 6

theorem mem_register : ∀ pass ∈ register,
    (pass.id = .ofNat 0 ∨ pass.id ∈ (Ids.startingAt 1).all) ∧ pass.selected = false := by
  decide

/-- The pipeline was not refused, so all of it is there, and nothing else. -/
theorem descriptors_eq (hcatalog : catalog? = .ok (ids, catalog)) :
    ids = Ids.startingAt 1 ∧ catalog.descriptors = register := by
  obtain ⟨own, base, hown, hrun⟩ := catalog?_eq_ok hcatalog
  obtain ⟨-, hmirrors⟩ := Directory.mirrors_empty.register (by decide) hown
  obtain ⟨-, hbase⟩ := Catalog.orderly_empty.register (by decide) hown
  have hsize : base.size = 1 := (Catalog.numbered_empty.register (by decide) hown).size_eq
  obtain ⟨-, rfl, -⟩ := Catalog.register_eq_ok_iff.mp hown
  have hroom : base.size + 6 ≤ 2 ^ 32 := by
    rw [hsize]
    decide
  have henrolls := enrolls_registerAll hmirrors.orderly hroom
  rw [hrun] at henrolls
  generalize houtcome : ((.ok ids, catalog) : Except PassError Ids × Catalog) = outcome
    at henrolls
  cases henrolls with
  | upTo => cases houtcome
  | all hdescriptors =>
    cases houtcome
    rw [hsize, hbase] at hdescriptors
    exact ⟨by rw [hsize], hdescriptors⟩

theorem exists_furnished (hcatalog : catalog? = .ok (ids, catalog)) :
    ∃ own, Furnished own ids catalog := by
  obtain ⟨rfl, hdescriptors⟩ := descriptors_eq hcatalog
  obtain ⟨own, base, hown, hrun⟩ := catalog?_eq_ok hcatalog
  obtain ⟨-, hmirrors⟩ := Directory.mirrors_empty.register (by decide) hown
  have hgrows := Catalog.numbered_empty.register (by decide) hown
  obtain ⟨-, rfl, -⟩ := Catalog.register_eq_ok_iff.mp hown
  have hroom : base.size + 6 ≤ 2 ^ 32 := by
    rw [hgrows.size_eq]
    decide
  obtain ⟨hentered, hretains⟩ := registerAll_eq_ok hgrows.numbered hroom hrun
  have horderly : catalog.Orderly := by
    refine orderly_registerAll hmirrors hrun ?_
    rw [← catalog.length_descriptors, hdescriptors]
    decide
  -- The entries are those of the fixed list, each at the number that it carries.
  have hmem : ∀ ⦃id pass⦄, catalog.find? id = some pass → pass ∈ register ∧ pass.id = id := by
    intro id pass hfind
    refine ⟨?_, horderly.id_eq (Catalog.card?_eq_some_iff.mpr ⟨pass, hfind, rfl⟩)⟩
    rw [← hdescriptors]
    exact Catalog.mem_descriptors_iff.mpr ⟨id, hfind⟩
  refine ⟨_, horderly, hentered, hretains _ _ hgrows.offers, by decide, ?_, ?_⟩
  · intro id pass hfind
    obtain ⟨hregister, rfl⟩ := hmem hfind
    exact (mem_register pass hregister).1
  · intro id pass hfind
    exact (mem_register pass (hmem hfind).1).2

/-! ## The command line -/

theorem exists_findArg_of_parse {ε : Type} {read : CommandLine.Reader ε} {words : List OsText}
    {line : CommandLine} (horderly : catalog.Orderly)
    (hparse : CommandLine.parse read catalog words = .ok line) :
    ∀ arg ∈ line.selected, ∃ id, catalog.findArg arg = some id := by
  intro arg harg
  rw [CommandLine.parse] at hparse
  rcases hread : read (CommandLine.command catalog) words with outcome | found
  · rw [hread] at hparse
    cases hparse
  · rw [hread] at hparse
    cases hparse
    obtain ⟨pass, hpass, rfl⟩ := List.mem_map.mp (List.mem_filter.mp harg).1
    obtain ⟨id, hfind⟩ := Catalog.mem_descriptors_iff.mp hpass
    exact ⟨id, horderly.findArg_eq_some_iff.mpr ⟨pass, hfind, rfl⟩⟩

end PassPipeline.Invocation
