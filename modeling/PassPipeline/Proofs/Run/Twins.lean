import PassPipeline.Proofs.Catalog.Numbering
import PassPipeline.Proofs.History.Rewording
import PassPipeline.Proofs.Run.Threading

/-!
# Executions that differ in the standard input

Two sites are twins if the executions that lie before them cannot be told apart but by what is
left on the standard input and by how the leading slot was counted: the one has skipped it, the
other has executed it.  Twins go on as twins as long as nothing reads the standard input
(`Twins.executeFrom`).

Whether a program reads depends on the answers it gets, so the condition is on the effects that
it has in a given scene.
-/

namespace PassPipeline

/-! ## What tame effects keep -/

structure Scene.Keeps (before after : Scene) : Prop where
  catalog : after.world.catalog = before.world.catalog
  input : after.world.input = before.world.input
  results : ∀ id ∈ before.results, id ∈ after.results

theorem Scene.keeps_perform (scene : Scene) {effect : Effect} (htame : effect.isTame = true) :
    scene.Keeps (scene.perform effect).2 := by
  cases effect with
  | store id value =>
      exact ⟨rfl, rfl, fun key hkey => Std.ExtTreeMap.mem_insert.mpr (Or.inr hkey)⟩
  | write text =>
      rw [hears_write]
      exact ⟨rfl, rfl, fun _ hkey => hkey⟩
  | discard | readInput | mark | credit | withdraw | remember | panic => cases htame
  | _ => exact ⟨rfl, rfl, fun _ hkey => hkey⟩

theorem Program.keeps_exec {α : Type} (program : Program α) {scene : Scene}
    (htame : ∀ effect ∈ program.effects scene, effect.isTame = true) :
    scene.Keeps (program.exec scene).2 := by
  induction program generalizing scene with
  | done value => exact ⟨rfl, rfl, fun _ hkey => hkey⟩
  | perform effect next ih =>
      rw [effects, List.forall_mem_cons] at htame
      obtain ⟨hfirst, hrest⟩ := htame
      have hkeeps := scene.keeps_perform hfirst
      rw [exec]
      rcases hperform : scene.perform effect with ⟨_ | answer, after⟩
      · rw [hperform] at hkeeps
        exact hkeeps
      · rw [hperform] at hkeeps hrest
        have hlater := ih answer hrest
        exact ⟨hlater.catalog.trans hkeeps.catalog, hlater.input.trans hkeeps.input,
          fun key hkey => hlater.results key (hkeeps.results key hkey)⟩

/-- What a slot keeps whose effects are tame. -/
structure Site.Keeps (before after : Site) : Prop where
  catalog : before.world.catalog.Retains after.world.catalog
  input : after.world.input = before.world.input
  results : ∀ id ∈ before.manager.results, id ∈ after.manager.results

theorem Site.keeps_executeSlot (here : Site) (timing : Timing) {slot : Nat} {id : PassId}
    (htame : ∀ effect ∈ here.performed slot id, effect.isTame = true) :
    here.Keeps (here.executeSlot timing slot id).2 := by
  have hran : ∀ {pass : Descriptor} {result : Option Report} {scene : Scene},
      here.world.catalog.find? id = some pass → ¬ here.Satisfied slot id →
      pass.behaviour.run.exec (here.entrance pass) = (result, scene) →
      scene.world.catalog = here.world.catalog ∧ scene.world.input = here.world.input ∧
        ∀ key ∈ here.manager.results, key ∈ scene.results := by
    intro pass result scene hfind hsatisfied hexec
    rw [performed_of_unsatisfied hfind hsatisfied] at htame
    have hkeeps := pass.behaviour.run.keeps_exec htame
    obtain ⟨trace, hentrance⟩ := here.entrance_eq pass
    rw [hexec, hentrance] at hkeeps
    exact ⟨hkeeps.catalog, hkeeps.input, hkeeps.results⟩
  -- Only a completed slot writes to the catalogue, and its credit is no part of a registration.
  have hretains : ∀ {catalog : Catalog}, catalog = here.world.catalog →
      here.world.catalog.Retains catalog := by
    rintro catalog rfl id registration hoffers
    exact hoffers
  have hstep := here.slotStep timing slot id
  generalize here.executeSlot timing slot id = result at hstep
  cases hstep with
  | missing hfind => exact ⟨hretains rfl, rfl, fun _ hkey => hkey⟩
  | skipped _ hsatisfied => exact ⟨hretains rfl, rfl, fun _ hkey => hkey⟩
  | panicked hfind hsatisfied hexec =>
      obtain ⟨hcatalog, hinput, hresults⟩ := hran hfind hsatisfied hexec
      exact ⟨hretains hcatalog, hinput, hresults⟩
  | failed hfind hsatisfied hexec _ =>
      obtain ⟨hcatalog, hinput, hresults⟩ := hran hfind hsatisfied hexec
      exact ⟨hretains hcatalog, hinput, hresults⟩
  | completed hfind hsatisfied hexec _ _ =>
      obtain ⟨hcatalog, hinput, hresults⟩ := hran hfind hsatisfied hexec
      exact ⟨Catalog.Retains.trans (hretains hcatalog)
        (Catalog.retains_update (fun _ => rfl) fun _ => rfl), hinput, hresults⟩

/-! ## Scenes that differ in the standard input -/

/-- The scenes are the same but for what is on the standard input and in the trace. -/
structure Scene.Alike (first second : Scene) : Prop where
  self : second.self = first.self
  results : second.results = first.results
  stream : second.stream = first.stream
  catalog : second.world.catalog = first.world.catalog

theorem Scene.Alike.perform {first second : Scene} (halike : first.Alike second) {effect : Effect}
    (hblind : effect.isReadInput = false) :
    Agree Scene.Alike (first.perform effect) (second.perform effect) := by
  obtain ⟨hself, hresults, hstream, hcatalog⟩ := halike
  cases effect with
  | whoAmI => exact ⟨congrArg some hself, hself, hresults, hstream, hcatalog⟩
  | fetch id kind =>
      refine ⟨?_, hself, hresults, hstream, hcatalog⟩
      rw [Scene.perform, Scene.perform, hresults]
  | holds id =>
      refine ⟨?_, hself, hresults, hstream, hcatalog⟩
      rw [Scene.perform, Scene.perform, hresults]
  | store id value =>
      exact ⟨rfl, hself, congrArg (·.insert id value) hresults, hstream, hcatalog⟩
  | discard id =>
      refine ⟨?_, hself, congrArg (·.erase id) hresults, hstream, hcatalog⟩
      rw [Scene.perform, Scene.perform, hresults]
  | stored =>
      refine ⟨?_, hself, hresults, hstream, hcatalog⟩
      rw [Scene.perform, Scene.perform, hresults]
  | write text =>
      rw [Scene.hears_write, Scene.hears_write, hstream]
      exact ⟨rfl, hself, hresults, rfl, hcatalog⟩
  | readInput => cases hblind
  | mark id selected =>
      rw [Scene.perform, Scene.perform, hcatalog]
      rcases first.world.catalog.setSelected id selected with error | after
      · exact ⟨rfl, hself, hresults, hstream, hcatalog⟩
      · exact ⟨rfl, hself, hresults, hstream, rfl⟩
  | credit id count =>
      rw [Scene.perform, Scene.perform, hcatalog]
      rcases first.world.catalog.addChanges id count with error | after
      · exact ⟨rfl, hself, hresults, hstream, hcatalog⟩
      · exact ⟨rfl, hself, hresults, hstream, rfl⟩
  | inspect id =>
      refine ⟨?_, hself, hresults, hstream, hcatalog⟩
      rw [Scene.perform, Scene.perform, hcatalog]
  | withdraw id =>
      rw [Scene.perform, Scene.perform, hcatalog]
      exact ⟨rfl, hself, hresults, hstream, rfl⟩
  | «recall» =>
      refine ⟨?_, hself, hresults, hstream, hcatalog⟩
      rw [Scene.perform, Scene.perform, hcatalog, hself]
  | remember memory =>
      rw [Scene.perform, Scene.perform, hcatalog, hself]
      exact ⟨rfl, hself, hresults, hstream, rfl⟩
  | note text => exact ⟨rfl, hself, hresults, hstream, hcatalog⟩
  | log level text => exact ⟨rfl, hself, hresults, hstream, hcatalog⟩
  | panic => exact ⟨rfl, hself, hresults, hstream, hcatalog⟩

theorem Program.alike_exec {α : Type} (program : Program α) {first second : Scene}
    (halike : first.Alike second)
    (hblind : ∀ effect ∈ program.effects first, effect.isReadInput = false) :
    Agree Scene.Alike (program.exec first) (program.exec second) := by
  induction program generalizing first second with
  | done value => exact ⟨rfl, halike⟩
  | perform effect next ih =>
      rw [effects, List.forall_mem_cons] at hblind
      obtain ⟨hfirst, hrest⟩ := hblind
      obtain ⟨answer, after, after', hhere, hthere, hafter⟩ := (halike.perform hfirst).exists
      rw [exec, exec, hhere, hthere]
      cases answer with
      | none => exact ⟨rfl, hafter⟩
      | some answer =>
          rw [hhere] at hrest
          exact ih answer hafter hrest

/-! ## Counters that differ in one slot -/

namespace Metrics

theorem increment_comm (counts : NameMap UInt64) (name other : String) :
    increment (increment counts name) other = increment (increment counts other) name := by
  by_cases hname : name = other
  · rw [hname]
  · apply Std.ExtTreeMap.ext_getElem?
    intro key
    have hleft : (increment counts name).getD other 0 = counts.getD other 0 := by
      rw [getD_increment, if_neg hname]
    have hright : (increment counts other).getD name 0 = counts.getD name 0 := by
      rw [getD_increment, if_neg (Ne.symm hname)]
    rw [increment, hleft, increment, increment, hright, increment]
    simp only [Std.ExtTreeMap.getElem?_insert, Std.LawfulEqCmp.compare_eq_iff_eq]
    by_cases hkey : other = key
    · simp [hkey, show name ≠ key from hkey ▸ hname]
    · simp [hkey]

/-- Where the first have counted a skipped slot, the second have counted an execution under that
name, if they count executions.  Average durations and times of day are left open. -/
structure Trade (name : String) (recording : Bool) (first second : Metrics) : Prop where
  runs : second.runs = first.runs
  lastScheduleLength : second.lastScheduleLength = first.lastScheduleLength
  failed : second.failed = first.failed
  skipped : first.skipped = second.skipped + 1
  executed : second.executed = if recording then increment first.executed name else first.executed

variable {name : String} {recording : Bool} {first second : Metrics}

theorem Trade.recordFailure (htrade : Trade name recording first second) (other : String) :
    Trade name recording (first.recordFailure other) (second.recordFailure other) :=
  { htrade with failed := congrArg (increment · other) htrade.failed }

theorem Trade.recordExecution (htrade : Trade name recording first second) (other : String)
    (duration duration' : Duration) (finished finished' : Instant) :
    Trade name recording (first.recordExecution other duration finished)
      (second.recordExecution other duration' finished') := by
  refine { htrade with executed := ?_ }
  show increment second.executed other = if recording then
    increment (increment first.executed other) name else increment first.executed other
  rw [htrade.executed]
  cases recording with
  | false => rfl
  | true => exact increment_comm first.executed name other

end Metrics

theorem Manager.trade_skip (manager : Manager) (name : String) (duration : Duration)
    (finished : Instant) :
    Metrics.Trade name manager.settings.recordMetrics manager.metrics.recordSkip
      (manager.counted (·.recordExecution name duration finished)) := by
  rw [counted]
  cases manager.settings.recordMetrics <;> exact ⟨rfl, rfl, rfl, rfl, rfl⟩

/-! ## Twins -/

namespace Site

/-- The sites are the same to an execution that does not read, and it has brought them here by a
leading slot of that name that the first has skipped and the second has executed. -/
structure Twins (name : String) (first second : Site) : Prop where
  settings : second.manager.settings = first.manager.settings
  results : second.manager.results = first.manager.results
  stream : second.manager.stream = first.manager.stream
  catalog : second.world.catalog = first.world.catalog
  metrics : Metrics.Trade name first.manager.settings.recordMetrics first.manager.metrics
    second.manager.metrics

variable {name : String} {first second : Site}

/-- Both count the same, or neither counts. -/
theorem Twins.counted (htwins : Twins name first second) {change change' : Metrics → Metrics}
    (hchange : ∀ {here there}, Metrics.Trade name first.manager.settings.recordMetrics here there →
      Metrics.Trade name first.manager.settings.recordMetrics (change here) (change' there)) :
    Metrics.Trade name first.manager.settings.recordMetrics (first.manager.counted change)
      (second.manager.counted change') := by
  rw [Manager.counted, Manager.counted, htwins.settings]
  split
  · exact hchange htwins.metrics
  · exact htwins.metrics

/-- Behind the leading slot nothing is skipped, so that both invoke the pass or neither finds
it. -/
theorem Twins.executeSlot (htwins : Twins name first second) (timing timing' : Timing)
    {slot : Nat} {id : PassId} (hslot : slot ≠ 0)
    (hblind : ∀ effect ∈ first.performed slot id, effect.isReadInput = false) :
    Agree (Twins name) (first.executeSlot timing slot id) (second.executeSlot timing' slot id) := by
  have hunsatisfied : ∀ {here : Site}, ¬ here.Satisfied slot id := fun h => hslot h.1
  cases hfind : first.world.catalog.find? id with
  | none =>
      rw [executeSlot_of_missing timing slot hfind,
        executeSlot_of_missing timing' slot (htwins.catalog ▸ hfind)]
      exact ⟨rfl, htwins⟩
  | some pass =>
      rw [performed_of_unsatisfied hfind hunsatisfied] at hblind
      rw [executeSlot_of_unsatisfied timing hfind hunsatisfied,
        executeSlot_of_unsatisfied timing' (htwins.catalog ▸ hfind) hunsatisfied]
      -- The programs see the same, but for the standard input, which they do not ask for.
      have halike : (first.entrance pass).Alike (second.entrance pass) := by
        obtain ⟨trace, hfirst⟩ := first.entrance_eq pass
        obtain ⟨trace', hsecond⟩ := second.entrance_eq pass
        rw [hfirst, hsecond]
        exact ⟨rfl, htwins.results, htwins.stream, htwins.catalog⟩
      obtain ⟨reported, after, after', hhere, hthere, hafter⟩ :=
        (pass.behaviour.run.alike_exec halike hblind).exists
      cases reported with
      | none =>
          rw [invoke_of_panicked timing slot hhere, invoke_of_panicked timing' slot hthere]
          exact ⟨rfl, htwins.settings, hafter.results, hafter.stream, hafter.catalog,
            htwins.metrics⟩
      | some report =>
          cases hgood : report.succeeded && report.verified with
          | false =>
              obtain ⟨trace, hfirst⟩ := invoke_of_failed timing slot hhere hgood
              obtain ⟨trace', hsecond⟩ := invoke_of_failed timing' slot hthere hgood
              rw [hfirst, hsecond]
              exact ⟨rfl, htwins.settings, hafter.results, hafter.stream, hafter.catalog,
                htwins.counted (·.recordFailure _)⟩
          | true =>
              obtain ⟨hsucceeded, hverified⟩ := Bool.and_eq_true_iff.mp hgood
              obtain ⟨trace, hfirst⟩ :=
                invoke_of_succeeded timing slot hhere hsucceeded hverified
              obtain ⟨trace', hsecond⟩ :=
                invoke_of_succeeded timing' slot hthere hsucceeded hverified
              rw [hfirst, hsecond]
              exact ⟨rfl, htwins.settings, hafter.results, hafter.stream,
                congrArg (·.update pass.id (·.addChanges report.changes)) hafter.catalog,
                htwins.counted (·.recordExecution _ _ _ _ _)⟩

/-! ## Slots that do not read -/

/-- The slots of the schedule do not read as long as that holds, and they keep it up. -/
structure Unreading (timing : Timing) (schedule : List PassId) (holds : Site → Prop) : Prop where
  blind : ∀ {here : Site} {slot : Nat} {id : PassId}, id ∈ schedule → holds here →
    ∀ effect ∈ here.performed slot id, effect.isReadInput = false
  kept : ∀ {here : Site} {slot : Nat} {id : PassId}, id ∈ schedule → holds here →
    holds (here.executeSlot timing slot id).2

variable {timing : Timing} {schedule : List PassId} {holds : Site → Prop}

theorem Unreading.tail {id : PassId} (hunreading : Unreading timing (id :: schedule) holds) :
    Unreading timing schedule holds where
  blind hid := hunreading.blind (List.mem_cons_of_mem id hid)
  kept hid := hunreading.kept (List.mem_cons_of_mem id hid)

/-- It holds afterwards, however the execution ends. -/
theorem Unreading.executeFrom (hunreading : Unreading timing schedule holds) (slot : Nat)
    {start : Site} (hstart : holds start) :
    holds (executeFrom timing slot schedule start).2 := by
  induction schedule generalizing slot start with
  | nil => exact hstart
  | cons id rest ih =>
      have hnext : holds (start.executeSlot timing slot id).2 :=
        hunreading.kept List.mem_cons_self hstart
      rw [Site.executeFrom]
      rcases hslot : start.executeSlot timing slot id with ⟨outcome, after⟩
      rw [hslot] at hnext
      cases outcome with
      | skipped => exact ih hunreading.tail _ hnext
      | completed => exact ih hunreading.tail _ hnext
      | failed => exact hnext
      | halted halt => exact hnext

/-- Twins end alike. -/
theorem Twins.executeFrom (htwins : Twins name first second) (timing' : Timing)
    (hunreading : Unreading timing schedule holds) (hfirst : holds first) {slot : Nat}
    (hslot : slot ≠ 0) :
    Agree (Twins name) (executeFrom timing slot schedule first)
      (executeFrom timing' slot schedule second) := by
  induction schedule generalizing slot first second with
  | nil => exact ⟨rfl, htwins⟩
  | cons id rest ih =>
      obtain ⟨outcome, after, after', hhere, hthere, hafter⟩ :=
        (htwins.executeSlot timing timing' hslot
          (hunreading.blind List.mem_cons_self hfirst)).exists
      have hnext : holds (first.executeSlot timing slot id).2 :=
        hunreading.kept List.mem_cons_self hfirst
      rw [hhere] at hnext
      have hrest := ih hafter hunreading.tail hnext (Nat.succ_ne_zero slot)
      -- The outcome is the same, so both go on or both end here.
      rw [Site.executeFrom, Site.executeFrom, hhere, hthere]
      cases outcome with
      | skipped => exact hrest
      | completed => exact hrest
      | failed => exact ⟨rfl, hafter⟩
      | halted halt => exact ⟨rfl, hafter⟩

/-- How often the runs that the execution calls read the standard input. -/
def readings (timing : Timing) (schedule : List PassId) (start : Site) : Nat :=
  ((List.range schedule.length).flatMap (effectsAt timing schedule start)).countP
    Effect.isReadInput

theorem Unreading.arrives {id : PassId} {start : Site}
    (hunreading : Unreading timing schedule holds)
    (hleading : start.GoesOn timing 0 id → holds (start.executeSlot timing 0 id).2)
    {slot : Nat} {here : Site}
    (harrives : Arrives timing (id :: schedule) start (slot + 1) here) : holds here := by
  induction slot generalizing here with
  | zero =>
      obtain ⟨leading, before, hid, hbefore, hgoesOn, rfl⟩ := arrives_succ_iff.mp harrives
      cases hid
      rw [hbefore.unique arrives_zero] at hgoesOn ⊢
      exact hleading hgoesOn
  | succ slot ih =>
      obtain ⟨next, before, hnext, hbefore, -, rfl⟩ := arrives_succ_iff.mp harrives
      exact hunreading.kept (List.mem_of_getElem? hnext) (ih hbefore)

/-- If the slots behind the leading one do not read, then all readings are made there. -/
theorem Unreading.readings_eq {id : PassId} {start : Site}
    (hunreading : Unreading timing schedule holds)
    (hleading : start.GoesOn timing 0 id → holds (start.executeSlot timing 0 id).2) :
    readings timing (id :: schedule) start =
      (start.performed 0 id).countP Effect.isReadInput := by
  have hlater : ((List.range schedule.length).flatMap fun slot =>
      effectsAt timing (id :: schedule) start (slot + 1)).countP Effect.isReadInput = 0 := by
    refine List.countP_eq_zero.mpr fun effect heffect => ?_
    obtain ⟨slot, -, hslot⟩ := List.mem_flatMap.mp heffect
    by_cases hcomes : ∃ next here, (id :: schedule)[slot + 1]? = some next ∧
        Arrives timing (id :: schedule) start (slot + 1) here
    · obtain ⟨next, here, hnext, harrives⟩ := hcomes
      rw [harrives.effectsAt_eq hnext] at hslot
      rw [hunreading.blind (List.mem_of_getElem? hnext) (hunreading.arrives hleading harrives)
        effect hslot]
      exact Bool.false_ne_true
    · -- An execution that has ended before has no effects here.
      rw [effectsAt_eq_nil fun next here hnext harrives => hcomes ⟨next, here, hnext, harrives⟩]
        at hslot
      cases hslot
  rw [readings, List.length_cons, List.range_succ_eq_map, List.flatMap_cons, List.countP_append,
    List.flatMap_map, hlater, arrives_zero.effectsAt_eq rfl, Nat.add_zero]

end Site

end PassPipeline
