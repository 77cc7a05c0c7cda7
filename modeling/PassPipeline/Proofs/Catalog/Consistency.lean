import PassPipeline.Manager
import PassPipeline.Proofs.Catalog.Requests
import PassPipeline.Proofs.Pipeline.Enrolment

/-!
# A catalogue is consistent

Whatever was asked of a catalogue that was empty at first, with refusals in between, as long as
the numbers do not run out (`requests_consistent`):

* the lookups agree with each other and with the list of the entries (`Consulted`),
* a registration is refused for its name, its argument or its short argument, in this order,
  and then changes nothing (`Admits`),
* the pipeline gets six numbers in a row, or stops behind what it has registered (`Enrolls`), and
* a directory that was asked the same has replied the same, and its indexes are right (`Mirrors`).
-/

namespace PassPipeline.Catalog

open TextPipeline

/-- The lookups find what the list of the entries has. -/
structure Consulted (catalog : Catalog) : Prop where
  length_eq : catalog.descriptors.length = catalog.size
  id_eq : ∀ (position : ℕ) (pass : Descriptor),
    catalog.descriptors[position]? = some pass → pass.id.toNat = position
  known : ∀ id, id.toNat < catalog.size → ∃ pass,
    catalog.info id = .ok pass ∧ pass.id = id ∧ catalog.descriptors[id.toNat]? = some pass
  unknown : ∀ id, catalog.size ≤ id.toNat → catalog.info id = .error (.unknownPass id)
  findName_iff : ∀ name id, catalog.findName name = some id ↔
    ∃ pass, catalog.info id = .ok pass ∧ pass.name = name
  findArg_iff : ∀ arg id, catalog.findArg arg = some id ↔
    ∃ pass, catalog.info id = .ok pass ∧ pass.arg = arg
  names : (catalog.descriptors.map (·.name)).Nodup
  args : (catalog.descriptors.map (·.arg)).Nodup
  shorts : (catalog.descriptors.filterMap (·.short)).Nodup

/-- One more pass type is refused for what is taken, or gets the next number. -/
structure Admits (catalog : Catalog) (registration : Registration) : Prop where
  refused_iff : (∃ error, catalog.register registration = .error error) ↔
    catalog.Takes Card.naming registration.name ∨ catalog.Takes Card.calling registration.arg ∨
      ∃ short, registration.short = some short ∧ catalog.Takes Card.short short
  reason : ∀ error, catalog.register registration = .error error ↔
    catalog.Refuses registration error
  unchanged : ∀ error, catalog.register registration = .error error →
    ((Request.register registration).onCatalog.run catalog) = (.error error, catalog)
  admitted : ∀ id after, catalog.register registration = .ok (id, after) →
    id.toNat = catalog.size ∧ after.descriptors = catalog.descriptors ++ [{ registration with id }]

variable {catalog : Catalog}

theorem Orderly.consulted (horderly : catalog.Orderly) : catalog.Consulted := by
  have hentry := horderly.getElem?_descriptors horderly.few
  -- A position is a number that has been handed out, so it fits into an identity.
  have hposition : ∀ (position : ℕ) (pass : Descriptor),
      catalog.descriptors[position]? = some pass →
      (PassId.ofNat position).toNat = position := by
    intro position pass hpass
    have hless := (List.getElem?_eq_some_iff.mp hpass).1
    rw [length_descriptors] at hless
    exact PassId.toNat_ofNat (hless.trans_le horderly.few)
  refine ⟨catalog.length_descriptors, ?_, ?_, ?_, ?_, ?_, ?_, ?_, ?_⟩
  · intro position pass hpass
    have hnumber := hposition position pass hpass
    have hfind : catalog.find? (.ofNat position) = some pass := by
      rw [← hentry, hnumber, hpass]
    rw [← hnumber]
    exact congrArg PassId.toNat (horderly.id_eq (card?_eq_some_iff.mpr ⟨pass, hfind, rfl⟩))
  · intro id hless
    obtain ⟨pass, hpass⟩ := mem_entries_iff.mp ((horderly.mem_iff id).mpr hless)
    exact ⟨pass, info_eq_ok_iff.mpr hpass,
      horderly.id_eq (card?_eq_some_iff.mpr ⟨pass, hpass, rfl⟩), (hentry id).trans hpass⟩
  · intro id hgreater
    refine info_eq_error_iff.mpr ⟨?_, rfl⟩
    rw [← Option.not_isSome_iff_eq_none, Option.isSome_iff_exists, ← mem_entries_iff,
      horderly.mem_iff]
    omega
  · intro name id
    simp only [info_eq_ok_iff]
    exact horderly.findName_eq_some_iff
  · intro arg id
    simp only [info_eq_ok_iff]
    exact horderly.findArg_eq_some_iff
  · rw [← List.filterMap_eq_map]
    exact horderly.nodup_of_unique horderly.names
  · rw [← List.filterMap_eq_map]
    exact horderly.nodup_of_unique horderly.args
  · exact horderly.nodup_of_unique horderly.shorts

theorem Orderly.admits (horderly : catalog.Orderly) (hroom : catalog.size < 2 ^ 32)
    (registration : Registration) : catalog.Admits registration := by
  refine ⟨?_, fun _ => register_eq_error_iff, ?_, ?_⟩
  · simp only [register_eq_error_iff]
    constructor
    · rintro ⟨error, htaken | ⟨-, htaken⟩ | ⟨-, -, hshort, htaken⟩⟩
      · exact .inl htaken
      · exact .inr (.inl htaken)
      · exact .inr (.inr ⟨_, hshort, htaken⟩)
    · intro htaken
      by_contra hnone
      have hfree : catalog.conflict? registration = none := by
        rw [Option.eq_none_iff_forall_ne_some]
        intro error herror
        exact hnone ⟨error, conflict?_eq_some_iff.mp herror⟩
      obtain ⟨hname, harg, hshort⟩ := conflict?_eq_none_iff.mp hfree
      rcases htaken with htaken | htaken | ⟨short, hsome, htaken⟩
      · exact hname htaken
      · exact harg htaken
      · exact hshort short hsome htaken
  · intro error hregister
    rw [Request.onCatalog, run_enter_bind, hregister]
  · intro id after hregister
    exact ⟨(horderly.toNumbered.register hroom hregister).number,
      (horderly.register hroom hregister).2⟩

/-- A catalogue that was built up by requests is consistent. -/
theorem requests_consistent (requests : List Request)
    (hfew : (serve Request.onCatalog requests {}).2.size < 2 ^ 32) :
    let (replies, catalog) := serve Request.onCatalog requests {}
    let (answers, directory) := serve Request.onDirectory requests {}
    catalog.Consulted ∧
      (∀ registration, catalog.Admits registration) ∧
      (catalog.size + 6 ≤ 2 ^ 32 → Enrolls catalog (registerAll.run catalog)) ∧
      answers = replies ∧ directory.Mirrors catalog := by
  obtain ⟨hreplies, hmirrors⟩ := serve_mirrors requests Directory.mirrors_empty hfew
  have horderly := hmirrors.orderly
  exact ⟨horderly.consulted, horderly.admits hfew, enrolls_registerAll horderly, hreplies,
    hmirrors⟩

/-- Requests of every sort: a pass that takes the name of the counting pass, another that is
refused for its short argument, a pipeline that stops at its fourth pass, and the pass of a
manager. -/
def rehearsal : List Request :=
  [.register { name := "Stats", arg := "numbers", behaviour := { run := .done .failure } },
    .registerPipeline,
    .register { name := "Time", arg := "time", short := some 't',
                behaviour := { run := .done .failure } },
    .selectArg "read",
    .register Manager.registration,
    .setSelected (.ofNat 9) true,
    .clearSelection]

theorem requests_consistent_rehearsal :
    let (replies, catalog) := serve Request.onCatalog rehearsal {}
    let (answers, directory) := serve Request.onDirectory rehearsal {}
    catalog.size < 2 ^ 32 ∧
      replies = [.ok [.ofNat 0], .error (.duplicateName "Stats"), .error (.duplicateArg "t"),
        .ok [.ofNat 1], .ok [.ofNat 4], .error (.unknownPass (.ofNat 9)), .ok []] ∧
      catalog.Consulted ∧
      (∀ registration, catalog.Admits registration) ∧
      (catalog.size + 6 ≤ 2 ^ 32 → Enrolls catalog (registerAll.run catalog)) ∧
      answers = replies ∧ directory.Mirrors catalog :=
  have hfew : (serve Request.onCatalog rehearsal {}).2.size < 2 ^ 32 := by decide +kernel
  ⟨hfew, by decide +kernel, requests_consistent rehearsal hfew⟩

end PassPipeline.Catalog
