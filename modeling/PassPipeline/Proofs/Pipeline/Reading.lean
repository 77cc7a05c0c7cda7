import PassPipeline.Proofs.Pipeline.Passes
import PassPipeline.Proofs.Run.Twins

/-!
# Reading the standard input

The reading pass first asks whether there is a value under its own identity, and reads only if
there is none.  So a slot of the pipeline reads the standard input if it is a slot of the reading
pass and no value is there.  Once there is a value it stays, since no pass of the pipeline
removes one, and then no slot reads any more (`unreading_of_loaded`).
-/

namespace PassPipeline.TextPipeline

open Program (effect)

variable {scene : Scene} {ids : Ids} {text : String} {input : ByteArray}

/-! ## The reading pass -/

theorem effects_effect_bind {α : Type} (first : Effect) (next : first.Answer → Program α)
    (scene : Scene) :
    (effect first >>= next).effects scene =
      first ::
        match scene.perform first with
        | (some answer, after) => (next answer).effects after
        | (none, _) => [] := by
  rw [effect, Program.perform_bind, Program.effects]
  rfl

theorem effects_read (hself : scene.results.contains scene.self = true) :
    read.effects scene =
      [.whoAmI, .holds scene.self, .log .debug "Read: input already loaded"] := by
  rw [read, effects_effect_bind]
  simp only [Scene.perform]
  rw [effects_effect_bind]
  simp only [Scene.perform, hself, if_true]
  rfl

theorem countP_effects_read (hself : scene.results.contains scene.self = false) :
    (read.effects scene).countP Effect.isReadInput = 1 := by
  rw [read, effects_effect_bind]
  simp only [Scene.perform]
  rw [effects_effect_bind]
  simp only [Scene.perform, hself, Bool.false_eq_true, if_false]
  rw [effects_effect_bind]
  simp only [Scene.perform]
  cases String.fromUTF8? scene.world.input <;> rfl

/-- Without a value the standard input is read to its end, and what it was decides on the rest. -/
theorem exec_read_of_missing (hself : scene.results.contains scene.self = false) :
    read.exec scene =
      (match String.fromUTF8? scene.world.input with
        | some text => storeOwn (.text text)
        | none =>
          giveUp "Read: failed to read stdin: stream did not contain valid UTF-8").exec
        { scene with world := { scene.world with input := ByteArray.empty } } := by
  rw [read, exec_effect_bind]
  simp only [Scene.perform]
  rw [exec_effect_bind]
  simp only [Scene.perform, hself, Bool.false_eq_true, if_false]
  rw [exec_effect_bind]
  rfl

theorem exec_read_of_valid (hself : scene.results.contains scene.self = false)
    (hinput : String.fromUTF8? scene.world.input = some text) :
    read.exec scene =
      (some { succeeded := true },
        { scene with
          results := scene.results.insert scene.self (.text text)
          world := { scene.world with input := ByteArray.empty } }) := by
  rw [exec_read_of_missing hself, hinput]
  rfl

theorem exec_read_of_invalid (hself : scene.results.contains scene.self = false)
    (hinput : String.fromUTF8? scene.world.input = none) :
    ∃ trace, read.exec scene =
      (some .failure,
        { scene with world := { scene.world with input := ByteArray.empty, trace } }) := by
  rw [exec_read_of_missing hself, hinput]
  exact ⟨_, rfl⟩

/-! ## The other passes -/

theorem within_storeOwn (value : Value) : (storeOwn value).Within Effect.isTame :=
  ⟨rfl, fun _ => ⟨rfl, fun _ => trivial⟩⟩

theorem within_giveUp (text : String) : (giveUp text).Within Effect.isTame :=
  ⟨rfl, fun _ => trivial⟩

theorem within_tokenize (read : PassId) : (tokenize read).Within Effect.isTame := by
  refine ⟨rfl, fun answer => ?_⟩
  cases answer with
  | error error => exact within_giveUp _
  | ok text => exact ⟨rfl, fun _ => within_storeOwn _⟩

theorem within_count (read tokenize : PassId) : (count read tokenize).Within Effect.isTame := by
  refine ⟨rfl, fun found => ⟨rfl, fun split => ?_⟩⟩
  cases found with
  | error error => exact within_giveUp _
  | ok text =>
      cases split with
      | error error => exact within_giveUp _
      | ok tokens => exact within_storeOwn _

theorem within_summary (counting : PassId) : (summary (some counting)).Within Effect.isTame :=
  ⟨rfl, fun _ => trivial⟩

theorem within_writeTokens (tokens : List String) : (writeTokens tokens).Within Effect.isTame := by
  induction tokens with
  | nil => trivial
  | cons token rest ih =>
      refine ⟨rfl, fun answer => ?_⟩
      cases answer with
      | ok written => exact ih
      | error error => trivial

theorem within_emit (tokenize : PassId) : (emit tokenize).Within Effect.isTame := by
  refine ⟨rfl, fun answer => ?_⟩
  cases answer with
  | error error => trivial
  | ok tokens =>
      show (writeTokens tokens >>= _).Within Effect.isTame
      refine (within_writeTokens tokens).bind fun written => ?_
      cases written with
      | ok written => trivial
      | error error => exact within_giveUp _

theorem within_report (counting : PassId) : (report counting).Within Effect.isTame := by
  refine ⟨rfl, fun answer => ?_⟩
  cases answer with
  | error error => trivial
  | ok stats =>
      refine ⟨rfl, fun written => ?_⟩
      cases written with
      | ok written => trivial
      | error error => trivial

theorem Ids.Entered.within {catalog : Catalog} (hentered : ids.Entered catalog) {id : PassId}
    {pass : Descriptor} (hid : id ∈ ids.all) (hfind : catalog.find? id = some pass)
    (hother : id ≠ ids.read) : pass.behaviour.run.Within Effect.isTame := by
  rcases mem_all.mp hid with rfl | rfl | rfl | rfl | rfl | rfl
  · exact absurd rfl hother
  · rw [hentered.tokenize.run_eq hfind]
    exact within_tokenize _
  · rw [hentered.summary.run_eq hfind]
    exact within_summary _
  · rw [hentered.stats.run_eq hfind]
    exact within_count _ _
  · rw [hentered.emit.run_eq hfind]
    exact within_emit _
  · rw [hentered.report.run_eq hfind]
    exact within_report _

theorem lasts_read : read.Lasts := by
  refine ⟨rfl, fun self => ⟨rfl, fun held => ?_⟩⟩
  cases held with
  | true => exact ⟨rfl, fun _ => trivial⟩
  | false =>
      refine ⟨rfl, fun input => ?_⟩
      cases input with
      | some text => exact (within_storeOwn _).lasts
      | none => exact (within_giveUp _).lasts

/-- No pass of the pipeline dies by itself. -/
theorem Ids.Entered.lasts {catalog : Catalog} (hentered : ids.Entered catalog) {id : PassId}
    {pass : Descriptor} (hid : id ∈ ids.all) (hfind : catalog.find? id = some pass) :
    pass.behaviour.run.Lasts := by
  by_cases hread : id = ids.read
  · subst hread
    rw [hentered.read.run_eq hfind]
    exact lasts_read
  · exact (hentered.within hid hfind hread).lasts

/-! ## Slots while there is a value -/

/-- There is a value for the reading pass, and that much is left on the standard input. -/
structure Ids.Loaded (ids : Ids) (input : ByteArray) (here : Site) : Prop where
  entered : ids.Entered here.world.catalog
  read : ids.read ∈ here.manager.results
  input_eq : here.world.input = input

theorem Ids.Loaded.tame {here : Site} (hloaded : ids.Loaded input here) {id : PassId}
    (hid : id ∈ ids.all) (slot : Nat) :
    ∀ effect ∈ here.performed slot id, effect.isTame = true := by
  obtain ⟨registration, hoffers⟩ := hloaded.entered.offers hid
  obtain ⟨pass, hfind, -, hpass⟩ := hoffers
  by_cases hsatisfied : here.Satisfied slot id
  · rw [Site.performed_of_satisfied hsatisfied]
    nofun
  · rw [Site.performed_of_unsatisfied hfind hsatisfied]
    -- The reading pass is tame only because there is a value.  The others always are.
    by_cases hread : id = ids.read
    · subst hread
      have hself : (here.entrance pass).results.contains (here.entrance pass).self = true := by
        rw [show (here.entrance pass).self = ids.read from hpass]
        exact Std.ExtTreeMap.contains_iff_mem.mpr hloaded.read
      rw [hloaded.entered.read.run_eq hfind,
        show readRegistration.behaviour.run = TextPipeline.read from rfl, effects_read hself]
      simp [Effect.isTame]
    · exact (hloaded.entered.within hid hfind hread).mem_effects _

theorem Ids.Loaded.step {here : Site} (hloaded : ids.Loaded input here) {id : PassId}
    (hid : id ∈ ids.all) (timing : Timing) (slot : Nat) :
    ids.Loaded input (here.executeSlot timing slot id).2 := by
  have hkeeps := here.keeps_executeSlot timing (hloaded.tame hid slot)
  exact ⟨hloaded.entered.retained hkeeps.catalog, hkeeps.results _ hloaded.read,
    hkeeps.input.trans hloaded.input_eq⟩

theorem unreading_of_loaded {schedule : List PassId} (hall : ∀ id ∈ schedule, id ∈ ids.all)
    (timing : Timing) (input : ByteArray) :
    Site.Unreading timing schedule (ids.Loaded input) where
  blind hid hloaded effect heffect :=
    Effect.isReadInput_of_isTame (hloaded.tame (hall _ hid) _ effect heffect)
  kept hid hloaded := hloaded.step (hall _ hid) timing _

/-! ## Slots of the reading pass -/

variable {here : Site}

theorem Ids.Entered.skip_read (hentered : ids.Entered here.world.catalog)
    (hvalue : ids.read ∈ here.manager.results) (timing : Timing) :
    here.performed 0 ids.read = [] ∧
    ∃ trace, here.executeSlot timing 0 ids.read =
      (.skipped,
        { manager := { here.manager with metrics := here.manager.metrics.recordSkip }
          world := { here.world with trace } }) := by
  have hsatisfied : here.Satisfied 0 ids.read := ⟨rfl, Std.ExtTreeMap.contains_iff_mem.mpr hvalue⟩
  obtain ⟨pass, hfind, -⟩ := hentered.read
  exact ⟨Site.performed_of_satisfied hsatisfied,
    Site.executeSlot_of_satisfied timing hfind hsatisfied⟩

/-- A slot of the reading pass reads where there is no value.  It completes with the text that
it has read, or fails if that is no text. -/
theorem Ids.Entered.invoke_read (hentered : ids.Entered here.world.catalog)
    (hvalue : ids.read ∉ here.manager.results) (timing : Timing) (slot : Nat) :
    (here.performed slot ids.read).countP Effect.isReadInput = 1 ∧
    (∀ text, String.fromUTF8? here.world.input = some text →
      ∃ trace, here.executeSlot timing slot ids.read =
        (.completed,
          { manager := { here.manager with
              results := here.manager.results.insert ids.read (.text text)
              metrics := here.manager.counted
                (·.recordExecution readRegistration.name (timing.slot slot)
                  (timing.finished slot)) }
            world := { here.world with input := ByteArray.empty, trace } })) ∧
    (String.fromUTF8? here.world.input = none →
      ∃ trace, here.executeSlot timing slot ids.read =
        (.failed,
          { manager := { here.manager with
              metrics := here.manager.counted (·.recordFailure readRegistration.name) }
            world := { here.world with input := ByteArray.empty, trace } })) := by
  obtain ⟨pass, hfind, hregistration, hid⟩ := hentered.read
  have hrun : pass.behaviour.run = TextPipeline.read := hentered.read.run_eq hfind
  have hname : pass.name = readRegistration.name := congrArg (·.name) hregistration
  have hself : (here.entrance pass).results.contains (here.entrance pass).self = false := by
    rw [show (here.entrance pass).self = ids.read from hid]
    exact eq_false_of_ne_true hvalue
  have hunsatisfied : ¬ here.Satisfied slot ids.read := fun hsatisfied =>
    hvalue (Std.ExtTreeMap.contains_iff_mem.mp hsatisfied.2)
  rw [Site.executeSlot_of_unsatisfied timing hfind hunsatisfied]
  refine ⟨?_, fun text hinput => ?_, fun hinput => ?_⟩
  · rw [Site.performed_of_unsatisfied hfind hunsatisfied, hrun]
    exact countP_effects_read hself
  · have hexec := exec_read_of_valid hself hinput
    rw [← hrun] at hexec
    obtain ⟨trace, hinvoke⟩ := Site.invoke_of_succeeded timing slot hexec rfl rfl
    -- The run reports no changes, and adding none leaves the entry as it is.
    have hcatalog : here.world.catalog.update pass.id (·.addChanges 0) = here.world.catalog :=
      Catalog.update_eq_self (fun pass => by simp [Descriptor.addChanges]) _ _
    refine ⟨trace, hinvoke.trans ?_⟩
    simp only [← hname, ← hid]
    rw [← hcatalog]
    rfl
  · obtain ⟨observed, hexec⟩ := exec_read_of_invalid hself hinput
    rw [← hrun] at hexec
    obtain ⟨trace, hinvoke⟩ := Site.invoke_of_failed timing slot hexec rfl
    refine ⟨trace, hinvoke.trans ?_⟩
    rw [← hname]
    rfl

/-! ## Executions -/

variable {start : Site} {rest : List PassId}

/-- With a value for the reading pass the leading slot is skipped, and nothing is read. -/
theorem Ids.Entered.begin_skipping (hentered : ids.Entered start.world.catalog)
    (hvalue : ids.read ∈ start.manager.results) (hall : ∀ id ∈ rest, id ∈ ids.all)
    (timing : Timing) :
    Site.readings timing (ids.read :: rest) start = 0 ∧
    ∃ trace first, first =
        { manager := { start.manager with metrics := start.manager.metrics.recordSkip }
          world := { start.world with trace } } ∧
      ids.Loaded start.world.input first ∧
      Site.executeFrom timing 0 (ids.read :: rest) start =
        Site.executeFrom timing 1 rest first := by
  obtain ⟨hsilent, trace, hskip⟩ := hentered.skip_read hvalue timing
  have hloaded : ids.Loaded start.world.input (start.executeSlot timing 0 ids.read).2 := by
    rw [hskip]
    exact ⟨hentered, hvalue, rfl⟩
  refine ⟨?_, trace, _, rfl, ?_, ?_⟩
  · rw [(unreading_of_loaded hall timing _).readings_eq fun _ => hloaded, hsilent]
    rfl
  · rw [hskip] at hloaded
    exact hloaded
  · rw [Site.executeFrom, hskip]

/-- Without a value the leading slot reads a text, and no other slot reads. -/
theorem Ids.Entered.begin_reading (hentered : ids.Entered start.world.catalog)
    (hvalue : ids.read ∉ start.manager.results)
    (hinput : String.fromUTF8? start.world.input = some text)
    (hall : ∀ id ∈ rest, id ∈ ids.all) (timing : Timing) :
    Site.readings timing (ids.read :: rest) start = 1 ∧
    ∃ trace first, first =
        { manager := { start.manager with
            results := start.manager.results.insert ids.read (.text text)
            metrics := start.manager.counted
              (·.recordExecution readRegistration.name (timing.slot 0) (timing.finished 0)) }
          world := { start.world with input := ByteArray.empty, trace } } ∧
      ids.Loaded ByteArray.empty first ∧
      Site.executeFrom timing 0 (ids.read :: rest) start =
        Site.executeFrom timing 1 rest first := by
  obtain ⟨honce, hvalid, -⟩ := hentered.invoke_read hvalue timing 0
  obtain ⟨trace, hcompleted⟩ := hvalid text hinput
  have hloaded : ids.Loaded ByteArray.empty (start.executeSlot timing 0 ids.read).2 := by
    rw [hcompleted]
    exact ⟨hentered, Std.ExtTreeMap.mem_insert_self, rfl⟩
  refine ⟨?_, trace, _, rfl, ?_, ?_⟩
  · rw [(unreading_of_loaded hall timing _).readings_eq fun _ => hloaded, honce]
  · rw [hcompleted] at hloaded
    exact hloaded
  · rw [Site.executeFrom, hcompleted]

/-- Without a value, and without a text to read, the leading slot fails. -/
theorem Ids.Entered.begin_vainly (hentered : ids.Entered start.world.catalog)
    (hvalue : ids.read ∉ start.manager.results)
    (hinput : String.fromUTF8? start.world.input = none) (timing : Timing)
    (rest : List PassId) :
    Site.readings timing (ids.read :: rest) start = 1 ∧
    ∃ trace, Site.executeFrom timing 0 (ids.read :: rest) start =
      (.ok false,
        { manager := { start.manager with
            metrics := start.manager.counted (·.recordFailure readRegistration.name) }
          world := { start.world with input := ByteArray.empty, trace } }) := by
  obtain ⟨honce, -, hinvalid⟩ := hentered.invoke_read hvalue timing 0
  obtain ⟨trace, hfailed⟩ := hinvalid hinput
  refine ⟨?_, trace, by rw [Site.executeFrom, hfailed]⟩
  -- No execution comes to a slot behind one that fails.
  have hnever : Site.Unreading timing rest fun _ => False :=
    ⟨fun _ hnowhere => hnowhere.elim, fun _ hnowhere => hnowhere⟩
  rw [hnever.readings_eq, honce]
  simp [Site.GoesOn, hfailed]

/-- The first has the text among its results, and the second has it on the standard input. -/
structure Ids.Apart (ids : Ids) (text : String) (first second : Site) : Prop where
  entered : ids.Entered first.world.catalog
  settings : second.manager.settings = first.manager.settings
  stream : second.manager.stream = first.manager.stream
  metrics : second.manager.metrics = first.manager.metrics
  catalog : second.world.catalog = first.world.catalog
  results : second.manager.results.insert ids.read (.text text) = first.manager.results
  missing : ids.read ∉ second.manager.results
  input : String.fromUTF8? second.world.input = some text

/-- What the leading slot skips in the first it reads in the second, and from there on the
executions are the same. -/
theorem Ids.Apart.executions_agree {start' : Site} (hapart : ids.Apart text start start')
    (hall : ∀ id ∈ rest, id ∈ ids.all) (timing timing' : Timing) :
    Site.readings timing (ids.read :: rest) start = 0 ∧
    Site.readings timing' (ids.read :: rest) start' = 1 ∧
    Agree
      (fun after after' => Site.Twins readRegistration.name after after' ∧
        after.world.input = start.world.input ∧ after'.world.input = ByteArray.empty)
      (Site.executeFrom timing 0 (ids.read :: rest) start)
      (Site.executeFrom timing' 0 (ids.read :: rest) start') := by
  have hvalue : ids.read ∈ start.manager.results :=
    hapart.results ▸ Std.ExtTreeMap.mem_insert_self
  have hentered' : ids.Entered start'.world.catalog := hapart.catalog.symm ▸ hapart.entered
  obtain ⟨hnever, trace, first, hfirst, hloaded, hskipped⟩ :=
    hapart.entered.begin_skipping hvalue hall timing
  obtain ⟨honce, trace', second, hsecond, hloaded', hread⟩ :=
    hentered'.begin_reading hapart.missing hapart.input hall timing'
  have htwins : Site.Twins readRegistration.name first second := by
    rw [hfirst, hsecond]
    refine ⟨hapart.settings, hapart.results, hapart.stream, hapart.catalog, ?_⟩
    have hmetered := start'.manager.trade_skip readRegistration.name (timing'.slot 0)
      (timing'.finished 0)
    rw [hapart.settings, hapart.metrics] at hmetered
    exact hmetered
  have hunreading := unreading_of_loaded hall timing start.world.input
  have hunreading' := unreading_of_loaded hall timing' ByteArray.empty
  obtain ⟨hresult, hafter⟩ :=
    htwins.executeFrom timing' hunreading hloaded (Nat.succ_ne_zero 0)
  rw [hskipped, hread]
  exact ⟨hnever, honce, hresult, hafter, (hunreading.executeFrom 1 hloaded).input_eq,
    (hunreading'.executeFrom 1 hloaded').input_eq⟩

end PassPipeline.TextPipeline
