import PassPipeline.Proofs.Run.Lifecycle
import PassPipeline.Proofs.Run.Threading
import PassPipeline.Proofs.Stream.Room

/-!
# Runs that write the report

A run writes the report if the manager's own pass is flagged and the collection comes to its
end.  There is a report if all that has been collected or declared has a name, and what becomes
of it is a matter of the stream alone (`Dumps.run_publish`).
-/

namespace PassPipeline.Site

variable {site ready : Site} {timing : Timing}

/-- The pass has a name. -/
def Named (site : Site) (id : PassId) : Prop := ∃ name, site.name id = .ok name

theorem exists_mapM {α β : Type} {change : α → Except PassError β} {list : List α}
    (hall : ∀ item ∈ list, ∃ value, change item = .ok value) :
    ∃ values, list.mapM change = .ok values := by
  induction list with
  | nil => exact ⟨[], rfl⟩
  | cons first rest ih =>
    obtain ⟨value, hvalue⟩ := hall first List.mem_cons_self
    obtain ⟨values, hvalues⟩ := ih fun item hitem => hall item (List.mem_cons_of_mem first hitem)
    refine ⟨value :: values, ?_⟩
    rw [List.mapM_cons, hvalue, hvalues]
    rfl

theorem exists_edgeLines {ids : List PassId} (hnamed : ∀ id ∈ ids, site.Named id)
    (arrow : String) : ∃ lines, site.edgeLines arrow ids = .ok lines := by
  refine exists_mapM fun id hid => ?_
  obtain ⟨name, hname⟩ := hnamed id hid
  exact ⟨_, by rw [hname]; rfl⟩

/-- There is a report if all that it is about has a name. -/
theorem exists_report
    (hnamed : ∀ id ∈ site.manager.dependencies.usages, site.Named id ∧
      (∀ other ∈ site.manager.dependencies.required id, site.Named other) ∧
      ∀ other ∈ site.manager.dependencies.providing id, site.Named other) :
    ∃ text, site.report = .ok text := by
  have hblocks : ∃ blocks, site.manager.dependencies.usages.keys.mapM site.block = .ok blocks := by
    refine exists_mapM fun id hid => ?_
    obtain ⟨⟨name, hname⟩, hrequired, hproviding⟩ :=
      hnamed id (Std.ExtTreeMap.mem_keys.mp hid)
    obtain ⟨requirements, hrequirements⟩ := exists_edgeLines hrequired "<--"
    obtain ⟨providers, hproviders⟩ := exists_edgeLines hproviding "-->"
    exact ⟨_, by rw [block, hname]; dsimp only; rw [hrequirements]; dsimp only; rw [hproviders]⟩
  obtain ⟨blocks, hblocks⟩ := hblocks
  exact ⟨_, by rw [report, hblocks]; rfl⟩

theorem Ready.report_eq (hready : site.Ready timing ready) :
    ready.report = site.collect.2.report := by
  obtain ⟨selected, trace, rfl⟩ := hready.beside
  rfl

theorem exists_dumps (hcollect : site.collect.1 = .ok ())
    (hown : site.Flagged site.manager.own) (timing : Timing) :
    ∃ ready, site.Dumps timing ready := by
  have hselected := (mem_selected_of_collected hcollect _).mpr hown
  have hnonempty : site.collect.2.manager.selected.isEmpty = false := by
    rw [← Bool.not_eq_true, Std.ExtTreeSet.isEmpty_iff]
    intro hempty
    simp [hempty] at hselected
  have hready : site.Ready timing _ := .chosen (Prod.ext hcollect rfl) hnonempty
  refine ⟨_, hready, ?_⟩
  obtain ⟨selected, trace, hframe⟩ := hready.frame
  have hsame : (site.collect.2.log .debug .execution "selection: done"
      (some timing.selection)).manager.own = site.manager.own := by rw [hframe]
  rw [hsame, Std.ExtTreeSet.contains_iff_mem]
  exact hselected

/-- A collection makes instances, but it does not run them. -/
theorem run_notMem_inquiries (site : Site) (id : PassId) (name : String) :
    .call id name .run ∉ site.inquiries := by
  intro hmem
  obtain ⟨pass, -, hcall⟩ := List.mem_flatMap.mp hmem
  have hphases : ∀ event ∈ pass.inquiry, event ≠ .call id name .run := by
    intro event hevent
    simp only [Descriptor.inquiry, Descriptor.call, Behaviour.inquiry, List.mem_cons,
      List.not_mem_nil, or_false] at hevent
    rcases hevent with rfl | rfl
    · split <;> rintro ⟨⟩
    · rintro ⟨⟩
  exact hphases _ hcall rfl

/-- A run that writes the report runs no pass. -/
theorem Dumps.run_notMem_lifecycle (hdumps : site.Dumps timing ready)
    (hbefore : site.lifecycle = []) (id : PassId) (name : String) :
    .call id name .run ∉ (site.run timing).2.lifecycle := by
  have hinquiries := site.run_notMem_inquiries id name
  have hready := hdumps.isReady.lifecycle
  rw [hbefore, List.nil_append] at hready
  rw [hdumps.run_eq]
  rcases ready.runDump_cases with ⟨-, hlifecycle⟩ | ⟨-, hlifecycle⟩
  · rw [hlifecycle, hready]
    simpa using hinquiries
  · rw [hlifecycle, hready]
    exact hinquiries

/-- The run ends as the attempt to publish the report does. -/
theorem Dumps.run_publish (hdumps : site.Dumps timing ready) {text : String}
    (htext : site.collect.2.report = .ok text) {result : Except Halt Unit} {after : Stream}
    (hpublish : site.manager.stream.publish text = (result, after)) :
    (site.run timing).2.manager.stream = after ∧
      (result = .ok () → (site.run timing).1 = .ok true) ∧
      ∀ halt, result = .error halt → (site.run timing).1 = .error halt := by
  have hstream := hdumps.isReady.stream_eq
  have hdump : ready.dump = (result, ready.update ({ · with stream := after })) := by
    rw [dump_eq, hdumps.isReady.report_eq, htext, hstream]
    dsimp only
    rw [hpublish]
  obtain ⟨hwritten, houtcome⟩ := ready.runDump_outcome
  rw [hdump] at hwritten houtcome
  rw [hdumps.run_eq]
  refine ⟨hwritten, ?_, ?_⟩
  · rintro rfl
    rcases houtcome with ⟨-, hok, -⟩ | ⟨halt, herror, -⟩
    · exact hok
    · cases herror
  · rintro halt rfl
    rcases houtcome with ⟨hok, -⟩ | ⟨other, herror, hrun, -⟩
    · cases hok
    · cases herror
      exact hrun

end PassPipeline.Site
