import PassPipeline.Invocation
import PassPipeline.Proofs.Catalog.Marking
import PassPipeline.Proofs.Catalog.Requests
import PassPipeline.Proofs.Run.Slots

/-!
# What comes before the run

An invocation makes its manager ready in six steps.  Three of them can fail, each for a reason of
its own: an argument to select is unknown, the default pass is unknown, or the input file cannot
be read.  None of them calls a pass or touches the standard input, and all that is observed of
them are messages (`World.Noted`).

The steps act on an invocation of which there is only a world so far, since nothing is printed
before the run.
-/

namespace PassPipeline

/-! ## Worlds in which nothing has happened -/

namespace World

variable {world before middle after : World}

/-- All that was observed are messages. -/
def Quiet (world : World) : Prop := ∀ event ∈ world.trace.toList, ∃ message, event = .log message

theorem Quiet.log (hquiet : world.Quiet) (message : Message) : (world.log message).Quiet := by
  intro event hevent
  have hcases : event ∈ world.trace.toList ∨ event = .log message := by
    simpa [World.log, record] using hevent
  rcases hcases with hbefore | rfl
  · exact hquiet event hbefore
  · exact ⟨message, rfl⟩

theorem Quiet.lifecycle_eq (hquiet : world.Quiet) : world.lifecycle = [] := by
  rw [lifecycle, List.filter_eq_nil_iff]
  intro event hevent
  obtain ⟨message, rfl⟩ := hquiet event hevent
  exact Bool.false_ne_true

/-- Messages were written, and nothing else has happened. -/
structure Noted (before after : World) : Prop where
  catalog : after.catalog = before.catalog
  input : after.input = before.input
  quiet : before.Quiet → after.Quiet

theorem noted_refl (world : World) : world.Noted world := ⟨rfl, rfl, id⟩

theorem noted_log (world : World) (message : Message) : world.Noted (world.log message) :=
  ⟨rfl, rfl, fun hquiet => hquiet.log message⟩

theorem Noted.trans (hfirst : before.Noted middle) (hsecond : middle.Noted after) :
    before.Noted after :=
  ⟨hsecond.catalog.trans hfirst.catalog, hsecond.input.trans hfirst.input,
    fun hquiet => hsecond.quiet (hfirst.quiet hquiet)⟩

end World

namespace Invocation

/-- Makes a manager and puts passes under its management. -/
def manage (settings : Settings) (ids : List PassId) : Step Manager := do
  ids.foldlM entrust (← appoint settings)

/-- Makes a manager that is ready for the run. -/
def equip (surroundings : Surroundings) (ids : TextPipeline.Ids) (line : CommandLine)
    (configuration : Configuration) : Step Manager := do
  let manager ← manage configuration.manager ids.all
  let manager ← nameDefault manager configuration.defaultPass
  seed surroundings ids.read manager line.input

/-- Everything that comes before the run. -/
def arrange (libraries : Libraries) (surroundings : Surroundings) (ids : TextPipeline.Ids)
    (line : CommandLine) : Step Manager := do
  let configuration ← configure libraries surroundings line
  (line.selected ++ configuration.select).forM select
  equip surroundings ids line configuration

theorem carryOut_eq (libraries : Libraries) (surroundings : Surroundings)
    (ids : TextPipeline.Ids) (timing : Timing) (line : CommandLine) :
    carryOut libraries surroundings ids timing line =
      arrange libraries surroundings ids line >>= run timing line := by
  simp only [carryOut, arrange, equip, manage, bind_assoc]

variable {world : World} {libraries : Libraries} {surroundings : Surroundings}
  {line : CommandLine} {manager : Manager} {arg : String} {path : OsText} {id : PassId}

/-! ## The configuration -/

theorem run_configure {configuration : Configuration}
    (hpath : Configuration.path (libraries.directory surroundings) line.config = .ok path)
    (hload : Configuration.load libraries.deserializer surroundings.environment path
      (surroundings.entry path) = .ok configuration) (world : World) :
    ∃ after, (configure libraries surroundings line).run { world } =
        (.ok configuration, { world := after }) ∧
      world.Noted after := by
  have hloaded : (configure libraries surroundings line).run { world } = (.ok configuration,
      { world := (world.log (Configuration.announcement path (surroundings.entry path))).log
          (settingsMessage configuration.manager) }) := by
    rw [configure, hpath]
    dsimp only
    rw [hload]
    rfl
  exact ⟨_, hloaded, (world.noted_log _).trans (World.noted_log _ _)⟩

/-! ## Selections -/

theorem run_get (invocation : Invocation) :
    (get : Step Invocation).run invocation = (.ok invocation, invocation) := rfl

theorem run_select (horderly : world.catalog.Orderly)
    (hfound : world.catalog.findArg arg = some id) :
    (select arg).run { world } =
      (.ok (), { world := { world with catalog := world.catalog.marking [arg] } }) := by
  rw [select, run_bind, run_get]
  dsimp only
  rw [horderly.selectArg_eq hfound]
  rfl

theorem run_select_unknown (hnone : world.catalog.findArg arg = none) :
    (select arg).run { world } = (.error (.unknownPass arg (.unknownArg arg)), { world }) := by
  rw [select, run_bind, run_get]
  dsimp only
  rw [Catalog.selectArg_eq_error hnone]
  rfl

/-- All of the arguments are selected, or those before the first that is unknown. -/
theorem run_selects (args : List String) (horderly : world.catalog.Orderly) :
    ((∀ arg ∈ args, ∃ id, world.catalog.findArg arg = some id) ∧
        (args.forM select).run { world } =
          (.ok (), { world := { world with catalog := world.catalog.marking args } })) ∨
      ∃ arg ∈ args, world.catalog.findArg arg = none ∧ ∃ catalog,
        (args.forM select).run { world } =
          (.error (.unknownPass arg (.unknownArg arg)),
            { world := { world with catalog } }) := by
  induction args generalizing world with
  | nil =>
    refine .inl ⟨List.forall_mem_nil _, ?_⟩
    rw [Catalog.marking_nil]
    rfl
  | cons arg rest ih =>
    have hcons : (arg :: rest).forM select = select arg >>= fun _ => rest.forM select := rfl
    rw [hcons, run_bind]
    rcases hfound : world.catalog.findArg arg with _ | id
    · rw [run_select_unknown hfound]
      exact .inr ⟨arg, List.mem_cons_self, hfound, world.catalog, rfl⟩
    · have hsame := horderly.findArg_marking [arg]
      have hmarked := world.catalog.marking_marking [arg] rest
      rw [run_select horderly hfound]
      dsimp only
      -- The catalogue has another flag set, and finds the same passes as before.
      rcases @ih { world with catalog := world.catalog.marking [arg] }
        (horderly.marking [arg]) with ⟨hall, hrun⟩ | ⟨other, hother, hnone, catalog, hrun⟩
      · refine .inl ⟨List.forall_mem_cons.mpr ⟨⟨id, hfound⟩, fun other hother => ?_⟩, ?_⟩
        · rw [← hsame]
          exact hall other hother
        · rw [hrun]
          dsimp only
          rw [hmarked]
          rfl
      · refine .inr ⟨other, List.mem_cons_of_mem arg hother, ?_, catalog, hrun⟩
        rw [← hsame]
        exact hnone

/-! ## The manager -/

theorem run_appoint {own : PassId} (hown : world.catalog.findArg Manager.ownArg = some own)
    (settings : Settings) :
    (appoint settings).run { world } =
      (.ok { own, settings, managed := (∅ : IdSet).insert own },
        { world := world.log (Manager.managing own) }) := by
  rw [appoint, run_bind, run_get]
  dsimp only
  rw [Manager.create, hown]
  rfl

theorem run_entrust (hnew : id ∉ manager.managed) :
    (entrust manager id).run { world } =
      (.ok { manager with managed := manager.managed.insert id },
        { world := world.log (Manager.managing id) }) := by
  have hfree : ¬ manager.managed.contains id = true :=
    mt Std.ExtTreeSet.mem_iff_contains.mpr hnew
  rw [entrust, run_bind, run_get]
  dsimp only
  rw [Manager.add, if_neg hfree]
  rfl

/-- Passes that are not under management come under management. -/
theorem run_entrusts {ids : List PassId} (hdistinct : ids.Nodup)
    (hnew : ∀ id ∈ ids, id ∉ manager.managed) (world : World) :
    ∃ managed after, (ids.foldlM entrust manager).run { world } =
        (.ok { manager with managed }, { world := after }) ∧
      (∀ id, id ∈ managed ↔ id ∈ manager.managed ∨ id ∈ ids) ∧ world.Noted after := by
  induction ids generalizing manager world with
  | nil => exact ⟨manager.managed, world, rfl, by simp, world.noted_refl⟩
  | cons id rest ih =>
    obtain ⟨hid, hrest⟩ := List.nodup_cons.mp hdistinct
    obtain ⟨hfirst, hlater⟩ := List.forall_mem_cons.mp hnew
    obtain ⟨managed, after, hrun, hmanaged, hnoted⟩ :=
      @ih { manager with managed := manager.managed.insert id } hrest
        (fun other hother hmem => by
          rcases Std.ExtTreeSet.mem_insert.mp hmem with hsame | hmem
          · exact hid (Std.LawfulEqCmp.eq_of_compare hsame ▸ hother)
          · exact hlater other hother hmem)
        (world.log (Manager.managing id))
    refine ⟨managed, after, ?_, fun other => ?_, (world.noted_log _).trans hnoted⟩
    · rw [List.foldlM_cons, run_bind, run_entrust hfirst]
      exact hrun
    · rw [hmanaged, List.mem_cons]
      simp only [Std.ExtTreeSet.mem_insert, Std.LawfulEqCmp.compare_eq_iff_eq]
      grind

theorem run_manage {own : PassId} (hown : world.catalog.findArg Manager.ownArg = some own)
    {ids : List PassId} (hdistinct : ids.Nodup) (hnew : own ∉ ids) (settings : Settings) :
    ∃ managed after, (manage settings ids).run { world } =
        (.ok { own, settings, managed }, { world := after }) ∧
      (∀ id, id ∈ managed ↔ id = own ∨ id ∈ ids) ∧ world.Noted after := by
  have hmem : ∀ id, id ∈ (∅ : IdSet).insert own ↔ id = own := fun id => by
    rw [Std.ExtTreeSet.mem_insert, Std.LawfulEqCmp.compare_eq_iff_eq]
    simp [eq_comm]
  have hfree : ∀ id ∈ ids, id ∉ (∅ : IdSet).insert own := by
    intro id hid hmanaged
    rw [(hmem id).mp hmanaged] at hid
    exact hnew hid
  obtain ⟨managed, after, hrun, hmanaged, hnoted⟩ :=
    @run_entrusts { own, settings, managed := (∅ : IdSet).insert own } ids hdistinct hfree
      (world.log (Manager.managing own))
  refine ⟨managed, after, ?_, fun id => ?_, (world.noted_log _).trans hnoted⟩
  · rw [manage, run_bind, run_appoint hown]
    exact hrun
  · rw [hmanaged, hmem]

theorem run_nameDefault (hnone : manager.defaultPass = none) (arg? : Option String)
    (world : World) :
    ((∀ arg, arg? = some arg → ∃ id, world.catalog.findArg arg = some id) ∧
        (nameDefault manager arg?).run { world } =
          (.ok { manager with defaultPass := arg?.bind world.catalog.findArg }, { world })) ∨
      ∃ arg, arg? = some arg ∧ world.catalog.findArg arg = none ∧
        (nameDefault manager arg?).run { world } = (.error (.unknownDefault arg), { world }) := by
  rcases arg? with _ | arg
  · refine .inl ⟨nofun, ?_⟩
    rw [Option.bind_none, ← hnone]
    rfl
  · rw [nameDefault, run_bind, run_get]
    dsimp only
    rcases hfound : world.catalog.findArg arg with _ | id
    · exact .inr ⟨arg, rfl, hfound, rfl⟩
    · refine .inl ⟨?_, ?_⟩
      · rintro other ⟨⟩
        exact ⟨id, hfound⟩
      · rw [Option.bind_some, hfound]
        rfl

/-- What an input file holds, if one is named, or why it cannot be read. -/
def source (surroundings : Surroundings) (line : CommandLine) :
    Option (Except ReadFailure String) :=
  line.input.map fun path => (surroundings.entry path).readText

/-- The results from which a run starts that finds the text of an input file. -/
def seeds (read : PassId) : Option (Except ReadFailure String) → Results
  | some (.ok text) => .ofValues [(read, .text text)]
  | _ => ∅

theorem run_seed (hnone : manager.defaultResults = ∅) (read : PassId) (world : World) :
    (∃ after, (∀ reason, source surroundings line ≠ some (.error reason)) ∧
        (seed surroundings read manager line.input).run { world } =
          (.ok { manager with defaultResults := seeds read (source surroundings line) },
            { world := after }) ∧ world.Noted after) ∨
      ∃ path reason, source surroundings line = some (.error reason) ∧
        (seed surroundings read manager line.input).run { world } =
          (.error (.unreadableInput path reason), { world }) := by
  rw [source]
  rcases line.input with _ | path
  · refine .inl ⟨world, nofun, ?_, world.noted_refl⟩
    have hseeds : seeds read none = manager.defaultResults := hnone.symm
    rw [Option.map_none, hseeds]
    rfl
  · rw [seed, Option.map_some]
    rcases hread : (surroundings.entry path).readText with reason | text
    · exact .inr ⟨path, reason, rfl, rfl⟩
    · exact .inl ⟨world.log (inputMessage path text), nofun, rfl, world.noted_log _⟩

end Invocation

end PassPipeline
