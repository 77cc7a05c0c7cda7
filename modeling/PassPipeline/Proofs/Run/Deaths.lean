import PassPipeline.Proofs.Run.Outlets
import PassPipeline.Proofs.Run.Threading

/-!
# Runs in which no pass dies

A pass can die by itself, and it can die of what it writes.  Nothing that is done in the course of
a run changes what the passes of the catalogue do, so if none of them dies by itself when the run
begins (`Catalog.Lasting`), none does at any slot.  If moreover the stream takes whatever is
written, the run does not end in a death (`Site.run_ne_panicked`).
-/

namespace PassPipeline

/-! ## Catalogues -/

/-- No pass in the catalogue dies by itself. -/
def Catalog.Lasting (catalog : Catalog) : Prop :=
  ∀ ⦃id pass⦄, catalog.find? id = some pass → pass.behaviour.run.Lasts

namespace Catalog.Lasting

variable {catalog after : Catalog} (hlasting : catalog.Lasting)

include hlasting

theorem update (id : PassId) {change : Descriptor → Descriptor}
    (hchange : ∀ pass, (change pass).behaviour = pass.behaviour) :
    (catalog.update id change).Lasting := by
  intro other pass hpass
  rw [find?_update] at hpass
  split at hpass
  · obtain ⟨before, hbefore, rfl⟩ := Option.map_eq_some_iff.mp hpass
    rw [hchange]
    exact hlasting hbefore
  · exact hlasting hpass

theorem updateKnown {id : PassId} {change : Descriptor → Descriptor}
    (hknown : catalog.updateKnown id change = .ok after)
    (hchange : ∀ pass, (change pass).behaviour = pass.behaviour) : after.Lasting := by
  rw [Catalog.updateKnown] at hknown
  cases hinfo : catalog.info id with
  | error error =>
    rw [hinfo] at hknown
    cases hknown
  | ok pass =>
    rw [hinfo] at hknown
    cases hknown
    exact hlasting.update id hchange

theorem withdraw (id : PassId) : (catalog.withdraw id).2.Lasting := by
  rw [Catalog.withdraw]
  cases catalog.admission with
  | numbered => exact hlasting
  | free =>
    intro other pass hpass
    rw [find?, Std.ExtTreeMap.getElem?_erase] at hpass
    split at hpass
    · cases hpass
    · exact hlasting hpass

end Catalog.Lasting

/-! ## Programs -/

theorem Scene.lasting_perform {scene : Scene} (hlasting : scene.world.catalog.Lasting)
    (effect : Effect) : (scene.perform effect).2.world.catalog.Lasting := by
  cases effect with
  | write text =>
    rw [hears_write]
    exact hlasting
  | mark id selected =>
    rw [perform]
    split
    · next catalog hselect => exact hlasting.updateKnown hselect fun _ => rfl
    · exact hlasting
  | credit id count =>
    rw [perform]
    split
    · next catalog hadd => exact hlasting.updateKnown hadd fun _ => rfl
    · exact hlasting
  | withdraw id => exact hlasting.withdraw id
  | remember memory => exact hlasting.update scene.self fun _ => rfl
  | _ => exact hlasting

theorem Program.lasting_exec {α : Type} (program : Program α) {scene : Scene}
    (hlasting : scene.world.catalog.Lasting) : (program.exec scene).2.world.catalog.Lasting := by
  induction program generalizing scene with
  | done value => exact hlasting
  | perform effect next ih =>
    have hafter := scene.lasting_perform hlasting effect
    rw [exec]
    rcases hscene : scene.perform effect with ⟨_ | answer, after⟩ <;> rw [hscene] at hafter
    · exact hafter
    · exact ih answer hafter

theorem Scene.perform_ne_none {scene : Scene} (hboundless : scene.stream.Boundless)
    {effect : Effect} (heffect : effect.isPanic = false) : (scene.perform effect).1 ≠ none := by
  cases effect with
  | write text =>
    obtain ⟨stream, hwrite, -⟩ := (hboundless _).writeText (Nat.le_refl text.toUTF8.size)
    rw [perform_write hwrite]
    exact Option.some_ne_none _
  | mark id selected =>
    rw [perform]
    split <;> exact Option.some_ne_none _
  | credit id count =>
    rw [perform]
    split <;> exact Option.some_ne_none _
  | panic => cases heffect
  | _ => exact Option.some_ne_none _

/-- A program that does not die by itself does not die of what it writes, either, if all of it is
taken. -/
theorem Program.exec_ne_none {α : Type} {program : Program α} (hlasts : program.Lasts)
    {scene : Scene} (hboundless : scene.stream.Boundless) : (program.exec scene).1 ≠ none := by
  induction program generalizing scene with
  | done value => nofun
  | perform effect next ih =>
    have halive := scene.perform_ne_none hboundless (by simpa using hlasts.1)
    have hafter := (scene.pours_perform hboundless effect).boundless hboundless
    rcases hstep : scene.perform effect with ⟨_ | answer, after⟩ <;> rw [hstep] at halive hafter
    · exact absurd rfl halive
    · rw [exec, hstep]
      exact ih answer (hlasts.2 answer) hafter

namespace Site

variable {site : Site}

/-! ## Slots -/

theorem lasting_executeSlot (hlasting : site.world.catalog.Lasting) (timing : Timing) (slot : Nat)
    (id : PassId) : (site.executeSlot timing slot id).2.world.catalog.Lasting := by
  have hran : ∀ {pass : Descriptor} {answer : Option Report} {scene : Scene},
      pass.behaviour.run.exec (site.entrance pass) = (answer, scene) →
        scene.world.catalog.Lasting := by
    intro pass answer scene hexec
    obtain ⟨trace, hentrance⟩ := site.entrance_eq pass
    have hafter := @Program.lasting_exec _ pass.behaviour.run (site.entrance pass)
      (by rw [hentrance]; exact hlasting)
    rwa [hexec] at hafter
  have hstep := site.slotStep timing slot id
  generalize site.executeSlot timing slot id = result at hstep
  cases hstep with
  | missing _ => exact hlasting
  | skipped _ _ => exact hlasting
  | panicked _ _ hexec => exact hran hexec
  | failed _ _ hexec _ => exact hran hexec
  | completed _ _ hexec _ _ => exact (hran hexec).update _ fun _ => rfl

theorem executeSlot_ne_panicked (hlasting : site.world.catalog.Lasting)
    (hboundless : site.manager.stream.Boundless) (timing : Timing) (slot : Nat) (id : PassId) :
    (site.executeSlot timing slot id).1 ≠ .halted .panicked := by
  have hstep := site.slotStep timing slot id
  generalize site.executeSlot timing slot id = result at hstep
  cases hstep with
  | @panicked pass _ hfind _ hexec =>
    have halive := @Program.exec_ne_none _ _ (hlasting hfind) (site.entrance pass) hboundless
    rw [hexec] at halive
    exact absurd rfl halive
  | _ => nofun

/-! ## Runs -/

/-- The induction is on the slots at which the execution has arrived. -/
theorem Arrives.lasting {timing : Timing} {schedule : List PassId} {start here : Site}
    {slot : Nat} (harrives : Arrives timing schedule start slot here)
    (hlasting : start.world.catalog.Lasting) : here.world.catalog.Lasting := by
  induction slot generalizing here with
  | zero =>
    rw [harrives.unique arrives_zero]
    exact hlasting
  | succ slot ih =>
    obtain ⟨id, before, -, hbefore, -, rfl⟩ := arrives_succ_iff.mp harrives
    exact lasting_executeSlot (ih hbefore) timing slot id

theorem run_ne_panicked (hlasting : site.world.catalog.Lasting)
    (hboundless : site.manager.stream.Boundless) (timing : Timing) :
    (site.run timing).1 ≠ .error .panicked := by
  cases site.course timing with
  | uncollected _ hrun =>
    rw [hrun]
    rintro ⟨⟩
  | idle _ _ _ hrun =>
    rw [hrun]
    rintro ⟨⟩
  | @dumped ready hdumps hrun =>
    have hstream := hdumps.isReady.stream_eq
    obtain ⟨text, hdump⟩ := ready.runDump_eq
    rw [hrun, hdump, dump_eq, hstream]
    rcases ready.report with error | report
    · rintro ⟨⟩
    · obtain ⟨after, hpublish, -⟩ := (hboundless _).publish (Nat.le_refl report.toUTF8.size)
      dsimp only
      rw [hpublish]
      rintro ⟨⟩
  | unplanned _ _ _ hrun =>
    rw [hrun]
    rintro ⟨⟩
  | @executed ready schedule hexecutes hrun =>
    obtain ⟨chosen, observed, hready⟩ := hexecutes.isReady.frame
    have hstart : (ready.commit timing schedule).manager.stream.Boundless := by
      rw [hready]
      exact hboundless
    have hcatalog : (ready.commit timing schedule).world.catalog.Lasting := by
      rw [hready]
      exact hlasting
    have hends := ends timing schedule (ready.commit timing schedule)
    rw [hrun, execute]
    generalize executeFrom timing 0 schedule (ready.commit timing schedule) = result at hends
    cases hends with
    | finished _ => rintro ⟨⟩
    | failed _ _ _ => rintro ⟨⟩
    | @halted slot here after id halt harrives hid hslot =>
      -- Up to this slot the stream has only received bytes, so it still takes all.
      obtain ⟨written, hreceived, -⟩ := harrives.pours hstart
      have halive := executeSlot_ne_panicked (harrives.lasting hcatalog)
        (hreceived.boundless hstart) timing slot id
      rw [hslot] at halive
      rintro ⟨⟩
      exact halive rfl

end Site

end PassPipeline
