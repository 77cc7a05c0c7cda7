import PassPipeline.Proofs.Catalog.Numbering
import PassPipeline.TextPipeline

/-!
# The registered pipeline

When all six passes have been registered, each is in the catalogue under its own number, the
numbers ascend in the order of registration, and the pass that stands for the counts knows the
pass that counts (`registerAll_eq_ok`).  The number of the counting pass is not yet known when
that pass is registered, so its entry is changed afterwards.
-/

namespace PassPipeline.TextPipeline

open Catalog

/-- The pass that stands for the counts, when it knows the counting pass. -/
def introducedRegistration (counting : PassId) : Registration :=
  { summaryRegistration with
    behaviour := { summaryRegistration.behaviour with run := summary (some counting) } }

/-- An entry whose passes know the counting pass. -/
def acquainted (counting : PassId) (pass : Descriptor) : Descriptor :=
  { pass with behaviour := { pass.behaviour with run := TextPipeline.summary (some counting) } }

theorem introduce_eq (catalog : Catalog) (summary counting : PassId) :
    introduce catalog summary counting = catalog.update summary (acquainted counting) := rfl

/-- The six passes are in the catalogue. -/
structure Ids.Entered (ids : Ids) (catalog : Catalog) : Prop where
  read : catalog.Offers ids.read readRegistration
  tokenize : catalog.Offers ids.tokenize (tokenizeRegistration ids.read)
  summary : catalog.Offers ids.summary (introducedRegistration ids.stats)
  stats : catalog.Offers ids.stats (statsRegistration ids.read ids.tokenize ids.summary)
  emit : catalog.Offers ids.emit (emitRegistration ids.tokenize)
  report : catalog.Offers ids.report (reportRegistration ids.summary ids.stats)
  ascending : ids.all.Pairwise (·.toNat < ·.toNat)

theorem mem_all {ids : Ids} {id : PassId} :
    id ∈ ids.all ↔ id = ids.read ∨ id = ids.tokenize ∨ id = ids.summary ∨ id = ids.stats ∨
      id = ids.emit ∨ id = ids.report := by
  simp [Ids.all]

theorem Ids.Entered.nodup {ids : Ids} {catalog : Catalog} (hentered : ids.Entered catalog) :
    ids.all.Nodup :=
  hentered.ascending.imp fun hless heq => Nat.ne_of_lt hless (congrArg PassId.toNat heq)

/-- No two of the six are the same. -/
theorem Ids.distinct {ids : Ids} (hnodup : ids.all.Nodup) :
    (ids.read ≠ ids.tokenize ∧ ids.read ≠ ids.summary ∧ ids.read ≠ ids.stats ∧
        ids.read ≠ ids.emit ∧ ids.read ≠ ids.report) ∧
      (ids.tokenize ≠ ids.summary ∧ ids.tokenize ≠ ids.stats ∧ ids.tokenize ≠ ids.emit ∧
        ids.tokenize ≠ ids.report) ∧
      (ids.summary ≠ ids.stats ∧ ids.summary ≠ ids.emit ∧ ids.summary ≠ ids.report) ∧
      (ids.stats ≠ ids.emit ∧ ids.stats ≠ ids.report) ∧ ids.emit ≠ ids.report := by
  simpa [Ids.all] using hnodup

theorem Ids.Entered.offers {ids : Ids} {catalog : Catalog} (hentered : ids.Entered catalog)
    {id : PassId} (hid : id ∈ ids.all) : ∃ registration, catalog.Offers id registration := by
  rcases mem_all.mp hid with rfl | rfl | rfl | rfl | rfl | rfl
  · exact ⟨_, hentered.read⟩
  · exact ⟨_, hentered.tokenize⟩
  · exact ⟨_, hentered.summary⟩
  · exact ⟨_, hentered.stats⟩
  · exact ⟨_, hentered.emit⟩
  · exact ⟨_, hentered.report⟩

theorem Ids.Entered.retained {ids : Ids} {catalog after : Catalog} (hentered : ids.Entered catalog)
    (hretains : catalog.Retains after) : ids.Entered after where
  read := hretains _ _ hentered.read
  tokenize := hretains _ _ hentered.tokenize
  summary := hretains _ _ hentered.summary
  stats := hretains _ _ hentered.stats
  emit := hretains _ _ hentered.emit
  report := hretains _ _ hentered.report
  ascending := hentered.ascending

/-! ## Registering all of them -/

theorem run_enter_bind {β : Type} (registration : Registration) (catalog : Catalog)
    (next : PassId → ExceptT PassError (StateM Catalog) β) :
    (enter registration >>= next).run catalog =
      match catalog.register registration with
      | .error error => (.error error, catalog)
      | .ok (id, after) => (next id).run after := by
  have henter : (enter registration >>= next).run catalog =
      ((match catalog.register registration with
        | .error error => throw error
        | .ok (id, catalog) => do
          set catalog
          return id) >>= next).run catalog := rfl
  rw [henter]
  rcases catalog.register registration with error | ⟨id, after⟩
  · rfl
  · rfl

/-- What goes on after a registration goes on from the grown catalogue. -/
theorem grows_of_enter {β : Type} {registration : Registration} {catalog registered : Catalog}
    {next : PassId → ExceptT PassError (StateM Catalog) β} {value : β}
    (hnumbered : catalog.Numbered) (hroom : catalog.size < 2 ^ 32)
    (hrun : (enter registration >>= next).run catalog = (.ok value, registered)) :
    ∃ id after, catalog.Grows id registration after ∧
      (next id).run after = (.ok value, registered) := by
  rw [run_enter_bind] at hrun
  split at hrun
  · cases hrun
  · next id after hregister => exact ⟨id, after, hnumbered.register hroom hregister, hrun⟩

/-- Getting to know the counting pass changes one entry. -/
theorem introduce_spec {catalog : Catalog} (hnumbered : catalog.Numbered)
    {summary : PassId} (counting : PassId)
    (hsummary : catalog.Offers summary summaryRegistration) :
    (introduce catalog summary counting).Numbered ∧
    (introduce catalog summary counting).size = catalog.size ∧
    (introduce catalog summary counting).Offers summary (introducedRegistration counting) ∧
    ∀ other registration, summary ≠ other → catalog.Offers other registration →
      (introduce catalog summary counting).Offers other registration := by
  refine ⟨hnumbered.update _ _, (mem_entries_update _ _ summary _).2, ?_, ?_⟩
  · refine hsummary.update_self (fun _ => rfl) fun pass hpass => ?_
    rw [introducedRegistration, ← hpass]
  · intro other registration hne hoffers
    exact hoffers.update_ne hne

theorem registerAll_eq_ok {catalog registered : Catalog} {ids : Ids}
    (hnumbered : catalog.Numbered) (hroom : catalog.size + 6 ≤ 2 ^ 32)
    (hrun : registerAll.run catalog = (.ok ids, registered)) :
    ids.Entered registered ∧ catalog.Retains registered := by
  obtain ⟨read, first, hread, hrun⟩ := grows_of_enter hnumbered (by omega) hrun
  have hfirst := hread.size_eq
  obtain ⟨tokenize, second, htokenize, hrun⟩ := grows_of_enter hread.numbered (by omega) hrun
  have hsecond := htokenize.size_eq
  obtain ⟨summary, third, hsummary, hrun⟩ := grows_of_enter htokenize.numbered (by omega) hrun
  have hthird := hsummary.size_eq
  obtain ⟨stats, fourth, hstats, hrun⟩ := grows_of_enter hsummary.numbered (by omega) hrun
  have hfourth := hstats.size_eq
  obtain ⟨hnumbers, hsize, hintroduced, hothers⟩ :=
    introduce_spec hstats.numbered stats (hstats.retains _ _ hsummary.offers)
  obtain ⟨emit, fifth, hemit, hrun⟩ := grows_of_enter hnumbers (by omega) hrun
  have hfifth := hemit.size_eq
  obtain ⟨report, sixth, hreport, hrun⟩ := grows_of_enter hemit.numbered (by omega) hrun
  cases hrun
  have hearly := (htokenize.retains.trans hsummary.retains).trans hstats.retains
  have hlate := hemit.retains.trans hreport.retains
  have hzero := hread.number
  have hone := htokenize.number
  have htwo := hsummary.number
  have hthree := hstats.number
  have hfour := hemit.number
  have hfive := hreport.number
  -- The one change is to the third pass, and the numbers tell it from the others.
  have hne : ∀ id : PassId, id.toNat ≠ summary.toNat → summary ≠ id :=
    fun id hid heq => hid (congrArg PassId.toNat heq.symm)
  have hreadNe := hne read (by omega)
  have htokenizeNe := hne tokenize (by omega)
  have hstatsNe := hne stats (by omega)
  refine ⟨?_, fun other registration hoffers => ?_⟩
  · constructor
    · exact hlate _ _ (hothers _ _ hreadNe (hearly _ _ hread.offers))
    · exact hlate _ _ (hothers _ _ htokenizeNe
        ((hsummary.retains.trans hstats.retains) _ _ htokenize.offers))
    · exact hlate _ _ hintroduced
    · exact hlate _ _ (hothers _ _ hstatsNe hstats.offers)
    · exact hreport.retains _ _ hemit.offers
    · exact hreport.offers
    · simp only [Ids.all, List.pairwise_cons, List.mem_cons, List.not_mem_nil, or_false,
        forall_eq_or_imp, forall_eq, false_implies, implies_true, List.Pairwise.nil, and_true]
      omega
  · -- What was there before has a lower number than the pass that is changed.
    have hother : other.toNat < catalog.size := hnumbered.lt_size hoffers
    exact hlate _ _ (hothers _ _ (hne other (by omega))
      (hearly _ _ (hread.retains _ _ hoffers)))

end PassPipeline.TextPipeline
