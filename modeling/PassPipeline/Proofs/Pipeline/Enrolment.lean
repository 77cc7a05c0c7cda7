import PassPipeline.Proofs.Catalog.Lookup
import PassPipeline.Proofs.Pipeline.Registration

/-!
# The entries of the pipeline

The six passes go behind what is in the catalogue, and get the numbers that come next
(`enrolls_registerAll`).  If one of them is refused, those before it stay, and nothing comes
behind them.

The pass that stands for the counts gets to know the counting pass as soon as that one is
registered.  So if the fifth or the sixth pass is refused, it knows it already.
-/

namespace PassPipeline.TextPipeline

open Catalog

/-- Six identities in a row. -/
def Ids.startingAt (start : ℕ) : Ids where
  read := .ofNat start
  tokenize := .ofNat (start + 1)
  summary := .ofNat (start + 2)
  stats := .ofNat (start + 3)
  emit := .ofNat (start + 4)
  report := .ofNat (start + 5)

/-- What is registered, before or after the counting pass was introduced. -/
def Ids.registrations (ids : Ids) (introduced : Bool) : List Registration :=
  [readRegistration, tokenizeRegistration ids.read,
    if introduced then introducedRegistration ids.stats else summaryRegistration,
    statsRegistration ids.read ids.tokenize ids.summary, emitRegistration ids.tokenize,
    reportRegistration ids.summary ids.stats]

/-- The entries of the first passes. -/
def Ids.entries (ids : Ids) (introduced : Bool) (count : ℕ) : List Descriptor :=
  (List.zipWith (fun (registration : Registration) id => ({ registration with id } : Descriptor))
    (ids.registrations introduced) ids.all).take count

/-- What registering the pipeline comes to: all of it behind what was there, or as many as come
before the one that is refused. -/
inductive Enrolls (catalog : Catalog) : Except PassError Ids × Catalog → Prop
  | all {after : Catalog} :
      after.descriptors = catalog.descriptors ++ (Ids.startingAt catalog.size).entries true 6 →
      Enrolls catalog (.ok (Ids.startingAt catalog.size), after)
  | upTo {after : Catalog} {count : ℕ} {registration : Registration} {error : PassError} :
      ((Ids.startingAt catalog.size).registrations false)[count]? = some registration →
      after.Refuses registration error →
      after.descriptors = catalog.descriptors ++
        (Ids.startingAt catalog.size).entries (decide (4 ≤ count)) count →
      Enrolls catalog (.error error, after)

/-- The first passes have been registered. -/
structure Stage (catalog : Catalog) (introduced : Bool) (count : ℕ) (current : Catalog) :
    Prop where
  orderly : current.Orderly
  descriptors_eq : current.descriptors =
    catalog.descriptors ++ (Ids.startingAt catalog.size).entries introduced count

section Stages

variable {catalog current : Catalog} {introduced : Bool} {count : ℕ}

theorem Stage.size_eq (hstage : Stage catalog introduced count current) (hcount : count ≤ 6) :
    current.size = catalog.size + count := by
  have hlength := congrArg List.length hstage.descriptors_eq
  rw [List.length_append, length_descriptors, length_descriptors] at hlength
  rw [hlength, Ids.entries, List.length_take]
  have hsix : (List.zipWith
      (fun (registration : Registration) id => ({ registration with id } : Descriptor))
      ((Ids.startingAt catalog.size).registrations introduced)
      (Ids.startingAt catalog.size).all).length = 6 := rfl
  omega

/-- One more pass is registered, or refused. -/
theorem Stage.enter (hstage : Stage catalog introduced count current)
    (hroom : catalog.size + 6 ≤ 2 ^ 32) (hcount : count < 6)
    (hintroduced : introduced = decide (4 ≤ count)) {registration : Registration}
    (hregistration : ((Ids.startingAt catalog.size).registrations false)[count]? =
      some registration)
    (hentries : (Ids.startingAt catalog.size).entries introduced (count + 1) =
      (Ids.startingAt catalog.size).entries introduced count ++
        [{ registration with id := .ofNat (catalog.size + count) }])
    {next : PassId → ExceptT PassError (StateM Catalog) Ids}
    (hnext : ∀ after, Stage catalog introduced (count + 1) after →
      Enrolls catalog ((next (.ofNat (catalog.size + count))).run after)) :
    Enrolls catalog ((TextPipeline.enter registration >>= next).run current) := by
  have hsize := hstage.size_eq hcount.le
  rw [run_enter_bind]
  split
  · next error hregister =>
    refine .upTo hregistration (register_eq_error_iff.mp hregister) ?_
    rw [hstage.descriptors_eq, hintroduced]
  · next id after hregister =>
    obtain ⟨-, hid, -⟩ := register_eq_ok_iff.mp hregister
    obtain ⟨horderly, hdescriptors⟩ := hstage.orderly.register (by omega) hregister
    rw [hid, hsize]
    refine hnext after ⟨horderly, ?_⟩
    rw [hdescriptors, hstage.descriptors_eq, hentries, List.append_assoc, hid, hsize]

theorem modify_append {α : Type} (front rest : List α) (position : ℕ) (change : α → α) :
    (front ++ rest).modify (front.length + position) change =
      front ++ rest.modify position change := by
  induction front with
  | nil => simp
  | cons head tail ih => simpa [Nat.succ_add] using ih

/-- The counting pass becomes known. -/
theorem Stage.introduce (hstage : Stage catalog false 4 current)
    (hroom : catalog.size + 6 ≤ 2 ^ 32) :
    Stage catalog true 4 (TextPipeline.introduce current (Ids.startingAt catalog.size).summary
      (Ids.startingAt catalog.size).stats) := by
  have hcard : ∀ pass, (acquainted (Ids.startingAt catalog.size).stats pass).card = pass.card :=
    fun _ => rfl
  obtain ⟨horderly, hdescriptors⟩ := hstage.orderly.update hcard
  refine ⟨horderly, ?_⟩
  have hsummary : (Ids.startingAt catalog.size).summary.toNat = catalog.descriptors.length + 2 := by
    rw [length_descriptors]
    exact PassId.toNat_ofNat (by omega)
  rw [introduce_eq, hdescriptors, hstage.descriptors_eq, hsummary, modify_append]
  rfl

end Stages

theorem enrolls_registerAll {catalog : Catalog} (horderly : catalog.Orderly)
    (hroom : catalog.size + 6 ≤ 2 ^ 32) : Enrolls catalog (registerAll.run catalog) := by
  have hstart : Stage catalog false 0 catalog := ⟨horderly, by simp [Ids.entries]⟩
  refine hstart.enter hroom (by decide) rfl rfl rfl fun first hfirst => ?_
  refine hfirst.enter hroom (by decide) rfl rfl rfl fun second hsecond => ?_
  refine hsecond.enter hroom (by decide) rfl rfl rfl fun third hthird => ?_
  refine hthird.enter hroom (by decide) rfl rfl rfl fun fourth hfourth => ?_
  have hknown := hfourth.introduce hroom
  refine hknown.enter hroom (by decide) rfl rfl rfl fun fifth hfifth => ?_
  refine hfifth.enter hroom (by decide) rfl rfl rfl fun sixth hsixth => ?_
  exact .all hsixth.descriptors_eq

end PassPipeline.TextPipeline
