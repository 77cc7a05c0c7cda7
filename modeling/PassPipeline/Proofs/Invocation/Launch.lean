import PassPipeline.Proofs.History.Independence
import PassPipeline.Proofs.Invocation.Furnishing
import PassPipeline.Proofs.Pipeline.Capacity

/-!
# Invocations as they begin and end

A *launch* is an invocation whose arguments parse and whose configuration loads, as the libraries
have it.  It reaches the run of its manager unless one of three things hinders it
(`Launch.arrange_cases`), and what the manager is then like depends on what was selected, on the
settings, on the default pass and on the input, and on nothing else (`Launch.Arranged`).
-/

namespace PassPipeline.Invocation

open TextPipeline

/-- An invocation whose arguments parse and whose configuration loads. -/
structure Launch (libraries : Libraries) where
  surroundings : Surroundings
  timing : Timing := {}
  words : List OsText
  ids : Ids
  catalog : Catalog
  line : CommandLine
  configuration : Configuration
  registers : catalog? = .ok (ids, catalog)
  parses : CommandLine.parse libraries.read catalog words = .ok line
  loads : ∃ path,
    Configuration.path (libraries.directory (libraries.complete surroundings)) line.config =
      .ok path ∧
    Configuration.load libraries.deserializer (libraries.complete surroundings).environment path
      (surroundings.entry path) = .ok configuration

namespace Launch

variable {libraries : Libraries}

/-- What the invocation leaves behind. -/
def outcome (launch : Launch libraries) : Outcome :=
  perform libraries launch.surroundings launch.timing launch.words

/-- The world before anything has happened. -/
def world (launch : Launch libraries) : World where
  catalog := launch.catalog
  input := launch.surroundings.input

/-- How the invocation ends, with its result. -/
def ended (launch : Launch libraries) : Except Failure Bool × Invocation :=
  (carryOut libraries (libraries.complete launch.surroundings) launch.ids launch.timing
    launch.line).run { world := launch.world }

/-- The run of the manager begins at that site. -/
def Reaches (launch : Launch libraries) (site : Site) : Prop :=
  (arrange libraries (libraries.complete launch.surroundings) launch.ids launch.line).run
    { world := launch.world } = (.ok site.manager, { world := site.world })

/-- The arguments that are to be selected, those of the command line first. -/
def args (launch : Launch libraries) : List String :=
  launch.line.selected ++ launch.configuration.select

/-- The pass is to be selected. -/
def Names (launch : Launch libraries) (id : PassId) : Prop :=
  ∃ arg ∈ launch.args, launch.catalog.findArg arg = some id

/-- The configuration selects only what is registered. -/
def Registered (launch : Launch libraries) : Prop :=
  ∀ arg ∈ launch.configuration.select, ∃ id, launch.catalog.findArg arg = some id

/-- What the input file holds, if one is named, or why it cannot be read. -/
def source (launch : Launch libraries) : Option (Except ReadFailure String) :=
  Invocation.source launch.surroundings launch.line

/-- The pass that runs if none is selected. -/
def defaultPass (launch : Launch libraries) : Option PassId :=
  launch.configuration.defaultPass.bind launch.catalog.findArg

variable {launch first second : Launch libraries} {site : Site} {id : PassId}

theorem outcome_eq (launch : Launch libraries) :
    launch.outcome =
      Invocation.outcome libraries
        (shows libraries (libraries.complete launch.surroundings).environment launch.line)
        launch.ended := by
  rw [outcome, perform, launch.registers]
  dsimp only
  rw [launch.parses]
  rfl

theorem exists_furnished (launch : Launch libraries) :
    ∃ own, Furnished own launch.ids launch.catalog :=
  Invocation.exists_furnished launch.registers

theorem registered_iff : launch.Registered ↔
    ∀ arg ∈ launch.args, ∃ id, launch.catalog.findArg arg = some id := by
  obtain ⟨own, hfurnished⟩ := launch.exists_furnished
  have hflags := exists_findArg_of_parse hfurnished.orderly launch.parses
  refine ⟨fun hregistered arg harg => ?_, fun hall arg harg => ?_⟩
  · rcases List.mem_append.mp harg with hflag | hselect
    · exact hflags arg hflag
    · exact hregistered arg hselect
  · exact hall arg (List.mem_append_right _ harg)

theorem names_iff : launch.Names id ↔
    ∃ pass, launch.catalog.find? id = some pass ∧ pass.arg ∈ launch.args := by
  obtain ⟨own, hfurnished⟩ := launch.exists_furnished
  have hfound := fun arg => @hfurnished.orderly.findArg_eq_some_iff _ id arg
  constructor
  · rintro ⟨arg, harg, hfind⟩
    obtain ⟨pass, hpass, rfl⟩ := hfurnished.orderly.findArg_eq_some_iff.mp hfind
    exact ⟨pass, hpass, harg⟩
  · rintro ⟨pass, hpass, harg⟩
    exact ⟨pass.arg, harg, hfurnished.orderly.findArg_eq_some_iff.mpr ⟨pass, hpass, rfl⟩⟩

/-! ## Up to the run -/

/-- What keeps a launch from reaching the run. -/
inductive Hindrance (launch : Launch libraries) : Failure → Prop
  | unknownPass {arg : String} (harg : arg ∈ launch.args)
      (hnone : launch.catalog.findArg arg = none) :
      launch.Hindrance (.unknownPass arg (.unknownArg arg))
  | unknownDefault {arg : String} (hregistered : launch.Registered)
      (hdefault : launch.configuration.defaultPass = some arg)
      (hnone : launch.catalog.findArg arg = none) :
      launch.Hindrance (.unknownDefault arg)
  | unreadableInput {path : OsText} {reason : ReadFailure} (hregistered : launch.Registered)
      (hsource : launch.source = some (.error reason)) :
      launch.Hindrance (.unreadableInput path reason)

/-- Nothing keeps the launch from reaching the run. -/
structure Ready (launch : Launch libraries) : Prop where
  registered : launch.Registered
  defaults : ∀ arg, launch.configuration.defaultPass = some arg →
    ∃ id, launch.catalog.findArg arg = some id
  reads : ∀ reason, launch.source ≠ some (.error reason)

theorem Hindrance.not_ready {failure : Failure} (hhindrance : launch.Hindrance failure) :
    ¬ launch.Ready := by
  intro hready
  cases hhindrance with
  | unknownPass harg hnone =>
    obtain ⟨id, hfound⟩ := registered_iff.mp hready.registered _ harg
    cases hnone.symm.trans hfound
  | unknownDefault _ hdefault hnone =>
    obtain ⟨id, hfound⟩ := hready.defaults _ hdefault
    cases hnone.symm.trans hfound
  | unreadableInput _ hsource => exact hready.reads _ hsource

theorem Hindrance.status_eq {failure : Failure} (hhindrance : launch.Hindrance failure) :
    failure.status = 1 := by
  cases hhindrance <;> rfl

/-- The manager as it is when the run begins. -/
structure Arranged (launch : Launch libraries) (site : Site) : Prop where
  own : launch.catalog.findArg Manager.ownArg = some site.manager.own
  settings : site.manager.settings = launch.configuration.manager
  managed : ∀ id, id ∈ site.manager.managed ↔ id = site.manager.own ∨ id ∈ launch.ids.all
  defaultPass : site.manager.defaultPass = launch.defaultPass
  defaultResults : site.manager.defaultResults = seeds launch.ids.read launch.source
  stream : site.manager.stream = .buffer
  catalog : site.world.catalog = launch.catalog.marking launch.args
  input : site.world.input = launch.surroundings.input
  quiet : site.world.Quiet

/-- With its passes selected, a launch gets ready for the run, or it is hindered. -/
theorem equip_cases {chosen : World} (hregistered : launch.Registered) (hquiet : chosen.Quiet)
    (hcatalog : chosen.catalog = launch.catalog.marking launch.args)
    (hinput : chosen.input = launch.surroundings.input) :
    (launch.Ready ∧ ∃ site, launch.Arranged site ∧
        (equip (libraries.complete launch.surroundings) launch.ids launch.line
          launch.configuration).run { world := chosen } =
            (.ok site.manager, { world := site.world })) ∨
      ∃ failure world, launch.Hindrance failure ∧ world.Quiet ∧
        (equip (libraries.complete launch.surroundings) launch.ids launch.line
          launch.configuration).run { world := chosen } = (.error failure, { world }) := by
  obtain ⟨own, hfurnished⟩ := launch.exists_furnished
  have hsame : ∀ arg, chosen.catalog.findArg arg = launch.catalog.findArg arg := by
    rw [hcatalog]
    exact hfurnished.orderly.findArg_marking launch.args
  obtain ⟨managed, after, hmanage, hmanaged, hnoted⟩ :=
    run_manage ((hsame _).trans hfurnished.findArg_own) hfurnished.entered.nodup
      hfurnished.own_notMem launch.configuration.manager
  have hafter : after.Quiet := hnoted.quiet hquiet
  have hnamed := @run_nameDefault { own, settings := launch.configuration.manager, managed } rfl
    launch.configuration.defaultPass after
  -- Preparing the manager leaves the catalogue, so arguments are found as before.
  have hfound : after.catalog.findArg = launch.catalog.findArg := by
    funext arg
    rw [hnoted.catalog, hsame]
  rw [hfound] at hnamed
  simp only [equip, run_bind, hmanage]
  rcases hnamed with ⟨hdefaults, hnamed⟩ | ⟨arg, hdefault, hnone, hnamed⟩
  · have hseed := @run_seed (libraries.complete launch.surroundings) launch.line
      { own, settings := launch.configuration.manager, managed, defaultPass := launch.defaultPass }
      rfl launch.ids.read after
    simp only [hnamed]
    rcases hseed with ⟨last, hreads, hseed, hlast⟩ | ⟨path, reason, hsource, hseed⟩
    · refine .inl ⟨⟨hregistered, hdefaults, hreads⟩, ⟨_, last⟩, ?_, hseed⟩
      exact {
        own := hfurnished.findArg_own
        settings := rfl
        managed := hmanaged
        defaultPass := rfl
        defaultResults := rfl
        stream := rfl
        catalog := (hlast.catalog.trans hnoted.catalog).trans hcatalog
        input := (hlast.input.trans hnoted.input).trans hinput
        quiet := hlast.quiet hafter }
    · exact .inr ⟨_, after, .unreadableInput hregistered hsource, hafter, hseed⟩
  · simp only [hnamed]
    exact .inr ⟨_, after, .unknownDefault hregistered hdefault hnone, hafter, rfl⟩

/-- A launch gets ready for the run, or it is hindered. -/
theorem arrange_cases (launch : Launch libraries) :
    (launch.Ready ∧ ∃ site, launch.Arranged site ∧ launch.Reaches site) ∨
      ∃ failure world, launch.Hindrance failure ∧ world.Quiet ∧
        (arrange libraries (libraries.complete launch.surroundings) launch.ids launch.line).run
          { world := launch.world } = (.error failure, { world }) := by
  obtain ⟨own, hfurnished⟩ := launch.exists_furnished
  obtain ⟨path, hpath, hload⟩ := launch.loads
  obtain ⟨configured, hconfigured, hnoted⟩ := run_configure hpath hload launch.world
  have hquiet : configured.Quiet := hnoted.quiet fun event hevent => nomatch hevent
  have hcatalog : configured.catalog = launch.catalog := hnoted.catalog
  have hselects := run_selects launch.args (hcatalog ▸ hfurnished.orderly)
  rw [hcatalog] at hselects
  simp only [Reaches, arrange, run_bind, hconfigured]
  rw [← args]
  rcases hselects with ⟨hall, hselected⟩ | ⟨arg, harg, hnone, catalog, hselected⟩
  · simp only [hselected]
    exact equip_cases (registered_iff.mpr hall) hquiet rfl hnoted.input
  · simp only [hselected]
    exact .inr ⟨_, { configured with catalog }, .unknownPass harg hnone, hquiet, rfl⟩

end Launch

end PassPipeline.Invocation
