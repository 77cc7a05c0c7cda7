import PassPipeline.Manager
import PassPipeline.Proofs.Catalog.Directory
import PassPipeline.Proofs.Pipeline.Registration

/-!
# Requests to a catalogue

A catalogue is built up by requests, each of which may be refused: registrations, one by one or
the pipeline at once, and selections in between.  A directory that is asked the same replies the
same and goes on mirroring the catalogue (`serve_mirrors`), as long as there are numbers left.

Most requests are one change that may be refused.  The pipeline is a sequence of registrations
with a change in between, so what is said of the changes is carried through computations
(`Follows`).
-/

namespace PassPipeline

open TextPipeline

/-- What is asked of a catalogue.  The pass of a manager is registered as any other. -/
inductive Request where
  | register (registration : Registration)
  | registerPipeline
  | setSelected (id : PassId) (selected : Bool)
  | addChanges (id : PassId) (count : UInt64)
  | selectArg (arg : String)
  | clearSelection

/-! ## Computations that may be refused -/

section Refusable

variable {σ α β : Type}

/-- Does what may be refused.  A refusal changes nothing. -/
def attempt (change : σ → Except PassError (α × σ)) : ExceptT PassError (StateM σ) α := do
  match change (← get) with
  | .error error => throw error
  | .ok (answer, after) =>
    set after
    return answer

theorem run_attempt (change : σ → Except PassError (α × σ)) (state : σ) :
    (attempt change).run state =
      match change state with
      | .error error => (.error error, state)
      | .ok (answer, after) => (.ok answer, after) := by
  show (match change state with
    | .error error => throw error
    | .ok (answer, after) => (do set after; return answer) :
      ExceptT PassError (StateM σ) α).run state = _
  rcases change state with error | ⟨answer, after⟩
  · rfl
  · rfl

theorem run_bind {ε : Type} (first : ExceptT ε (StateM σ) α)
    (next : α → ExceptT ε (StateM σ) β) (state : σ) :
    (first >>= next).run state =
      match first.run state with
      | (.ok value, after) => (next value).run after
      | (.error error, after) => (.error error, after) := by
  show (match first.run state with
    | (outcome, after) => ExceptT.bindCont next outcome after : Except ε β × σ) = _
  rcases first.run state with ⟨error | value, after⟩
  · rfl
  · rfl

theorem map_single (outcome : Except PassError σ) (id : PassId) :
    (outcome.map fun after => (id, after)).map (fun (id, after) => ([id], after)) =
      outcome.map fun after => ([id], after) := by
  rcases outcome with error | after
  · rfl
  · rfl

/-- Registers the pipeline, with any way to register a pass and any way to let the pass that
stands for the counts know the counting pass. -/
def TextPipeline.registerWith {m : Type → Type} [Monad m] (enter : Registration → m PassId)
    (introduce : PassId → PassId → m Unit) : m Ids := do
  let read ← enter readRegistration
  let tokenize ← enter (tokenizeRegistration read)
  let summary ← enter summaryRegistration
  let stats ← enter (statsRegistration read tokenize summary)
  introduce summary stats
  let emit ← enter (emitRegistration tokenize)
  let report ← enter (reportRegistration summary stats)
  return { read, tokenize, summary, stats, emit, report }

theorem TextPipeline.registerAll_eq : registerAll =
    registerWith enter fun summary counting => modify (introduce · summary counting) := rfl

/-- The replies to some requests, and what there is after them. -/
def serve (carryOut : Request → ExceptT PassError (StateM σ) (List PassId)) :
    List Request → σ → List (Except PassError (List PassId)) × σ
  | [], state => ([], state)
  | request :: rest, state =>
    let (reply, next) := (carryOut request).run state
    let (replies, last) := serve carryOut rest next
    (reply :: replies, last)

end Refusable

namespace Request

/-- Carries out a request, and replies with the identities that it is about. -/
def onCatalog : Request → ExceptT PassError (StateM Catalog) (List PassId)
  | register registration => return [← enter registration]
  | registerPipeline => return (← registerAll).all
  | setSelected id selected =>
    attempt fun catalog => (catalog.setSelected id selected).map fun after => ([], after)
  | addChanges id count =>
    attempt fun catalog => (catalog.addChanges id count).map fun after => ([], after)
  | selectArg arg =>
    attempt fun catalog => (catalog.selectArg arg).map fun (id, after) => ([id], after)
  | clearSelection => attempt fun catalog => .ok ([], catalog.clearSelection)

/-- Does the same to a directory. -/
def onDirectory : Request → ExceptT PassError (StateM Directory) (List PassId)
  | register registration =>
    return [← attempt fun directory => directory.register registration]
  | registerPipeline => do
    let ids ← registerWith (fun registration => attempt (·.register registration))
      fun summary counting => modify (Directory.update · summary (acquainted counting))
    return ids.all
  | setSelected id selected =>
    attempt fun directory =>
      (directory.updateKnown id ({ · with selected })).map fun after => ([], after)
  | addChanges id count =>
    attempt fun directory =>
      (directory.updateKnown id (·.addChanges count)).map fun after => ([], after)
  | selectArg arg =>
    attempt fun directory => (directory.selectArg arg).map fun (id, after) => ([id], after)
  | clearSelection => attempt fun directory => .ok ([], directory.clearSelection)

end Request

/-! ## A directory follows a catalogue -/

/-- What is done to a directory is what is done to a catalogue, unless the numbers run out. -/
def Follows {α : Type} (onCatalog : ExceptT PassError (StateM Catalog) α)
    (onDirectory : ExceptT PassError (StateM Directory) α) : Prop :=
  ∀ catalog directory,
    catalog.size ≤ (onCatalog.run catalog).2.size ∧
    (directory.Mirrors catalog → (onCatalog.run catalog).2.size < 2 ^ 32 →
      (onDirectory.run directory).1 = (onCatalog.run catalog).1 ∧
        (onDirectory.run directory).2.Mirrors (onCatalog.run catalog).2)

section Following

variable {α β : Type}

theorem Follows.pure (value : α) : Follows (Pure.pure value) (Pure.pure value) :=
  fun _ _ => ⟨Nat.le_refl _, fun hmirrors _ => ⟨rfl, hmirrors⟩⟩

theorem Follows.bind {onCatalog : ExceptT PassError (StateM Catalog) α}
    {onDirectory : ExceptT PassError (StateM Directory) α}
    {nextCatalog : α → ExceptT PassError (StateM Catalog) β}
    {nextDirectory : α → ExceptT PassError (StateM Directory) β}
    (hfirst : Follows onCatalog onDirectory)
    (hnext : ∀ value, Follows (nextCatalog value) (nextDirectory value)) :
    Follows (onCatalog >>= nextCatalog) (onDirectory >>= nextDirectory) := by
  intro catalog directory
  obtain ⟨hgrown, hfollowed⟩ := hfirst catalog directory
  rw [run_bind, run_bind]
  rcases hcatalog : onCatalog.run catalog with ⟨error | value, after⟩
  · rcases hdirectory : onDirectory.run directory with ⟨outcome, later⟩
    rw [hcatalog] at hgrown hfollowed
    rw [hdirectory] at hfollowed
    refine ⟨hgrown, fun hmirrors hroom => ?_⟩
    obtain ⟨rfl, hafter⟩ := hfollowed hmirrors hroom
    exact ⟨rfl, hafter⟩
  · rcases hdirectory : onDirectory.run directory with ⟨outcome, later⟩
    rw [hcatalog] at hgrown hfollowed
    rw [hdirectory] at hfollowed
    obtain ⟨hgrownNext, hfollowedNext⟩ := hnext value after later
    refine ⟨hgrown.trans hgrownNext, fun hmirrors hroom => ?_⟩
    obtain ⟨rfl, hafter⟩ := hfollowed hmirrors (hgrownNext.trans_lt hroom)
    exact hfollowedNext hafter hroom

/-- A catalogue and a directory give the same answer, and the one goes on mirroring the other. -/
inductive Alike : Except PassError (α × Catalog) → Except PassError (α × Directory) → Prop
  | refused (error : PassError) : Alike (.error error) (.error error)
  | done (answer : α) {catalog : Catalog} {directory : Directory} : directory.Mirrors catalog →
      Alike (.ok (answer, catalog)) (.ok (answer, directory))

theorem follows_attempt {onCatalog : Catalog → Except PassError (α × Catalog)}
    {onDirectory : Directory → Except PassError (α × Directory)}
    (hgrown : ∀ catalog answer after, onCatalog catalog = .ok (answer, after) →
      catalog.size ≤ after.size)
    (halike : ∀ catalog directory, directory.Mirrors catalog →
      (∀ answer after, onCatalog catalog = .ok (answer, after) → after.size < 2 ^ 32) →
      Alike (onCatalog catalog) (onDirectory directory)) :
    Follows (attempt onCatalog) (attempt onDirectory) := by
  intro catalog directory
  have halike := halike catalog directory
  rw [run_attempt, run_attempt]
  rcases hcatalog : onCatalog catalog with error | ⟨answer, after⟩
  · refine ⟨Nat.le_refl _, fun hmirrors _ => ?_⟩
    rw [hcatalog] at halike
    generalize onDirectory directory = outcome at halike
    cases halike hmirrors fun _ _ heq => by cases heq
    exact ⟨rfl, hmirrors⟩
  · refine ⟨hgrown catalog answer after hcatalog, fun hmirrors hroom => ?_⟩
    rw [hcatalog] at halike
    generalize onDirectory directory = outcome at halike
    cases halike hmirrors fun _ _ heq => by cases heq; exact hroom with
    | done answer hafter => exact ⟨rfl, hafter⟩

theorem follows_register (registration : Registration) :
    Follows (enter registration) (attempt fun directory => directory.register registration) := by
  have henter : enter registration = attempt (·.register registration) := by
    rw [← bind_pure (enter registration)]
    funext catalog
    refine (run_enter_bind registration catalog pure).trans
      (Eq.trans ?_ (run_attempt (·.register registration) catalog).symm)
    rcases catalog.register registration with error | ⟨id, after⟩
    · rfl
    · rfl
  have hgrown : ∀ (catalog : Catalog) id after,
      catalog.register registration = .ok (id, after) → catalog.size ≤ after.size := by
    intro catalog id after hregister
    obtain ⟨-, -, rfl⟩ := Catalog.register_eq_ok_iff.mp hregister
    exact Std.ExtTreeMap.size_le_size_insert
  rw [henter]
  -- The conflicts are the same, and without one both hand out the next number.
  refine follows_attempt hgrown fun catalog directory hmirrors hroom => ?_
  rcases hregister : catalog.register registration with error | ⟨id, after⟩
  · have hconflict := Catalog.conflict?_eq_some_iff.mpr
      (Catalog.register_eq_error_iff.mp hregister)
    rw [Directory.register, hmirrors.conflict?_eq, hconflict]
    exact .refused error
  · have hless := hroom id after hregister
    obtain ⟨hdirectory, hafter⟩ := hmirrors.register
      ((hgrown catalog id after hregister).trans_lt hless) hregister
    rw [hdirectory]
    exact .done id hafter

theorem size_of_updateKnown {catalog after : Catalog} {id : PassId}
    {change : Descriptor → Descriptor} {answer reply : α}
    (hupdate : (catalog.updateKnown id change).map (fun after => (reply, after)) =
      .ok (answer, after)) :
    catalog.size ≤ after.size := by
  rw [Catalog.updateKnown] at hupdate
  rcases hinfo : catalog.info id with error | pass
  · rw [hinfo] at hupdate
    cases hupdate
  · rw [hinfo] at hupdate
    cases hupdate
    exact (catalog.mem_entries_update id id change).2.ge

theorem alike_updateKnown {catalog : Catalog} {directory : Directory} {id : PassId}
    {change : Descriptor → Descriptor} (answer : α) (hmirrors : directory.Mirrors catalog)
    (hchange : ∀ pass, (change pass).card = pass.card) :
    Alike ((catalog.updateKnown id change).map fun after => (answer, after))
      ((directory.updateKnown id change).map fun after => (answer, after)) := by
  rw [Catalog.updateKnown, Directory.updateKnown, hmirrors.info_eq]
  rcases catalog.info id with error | pass
  · exact .refused error
  · exact .done answer (hmirrors.update id hchange)

theorem follows_modify {onCatalog : Catalog → Catalog} {onDirectory : Directory → Directory}
    (hgrown : ∀ catalog, catalog.size ≤ (onCatalog catalog).size)
    (hmodify : ∀ catalog directory, directory.Mirrors catalog →
      (onDirectory directory).Mirrors (onCatalog catalog)) :
    Follows (modify onCatalog) (modify onDirectory) :=
  fun catalog directory =>
    ⟨hgrown catalog, fun hmirrors _ => ⟨rfl, hmodify catalog directory hmirrors⟩⟩

end Following

namespace Request

theorem follows (request : Request) : Follows request.onCatalog request.onDirectory := by
  cases request with
  | register registration => exact (follows_register registration).bind fun id => .pure [id]
  | registerPipeline =>
    have hintroduce : ∀ summary counting, Follows (modify (introduce · summary counting))
        (modify (Directory.update · summary (acquainted counting))) := fun summary counting =>
      follows_modify (fun catalog => (catalog.mem_entries_update summary summary _).2.ge)
        fun _ _ hmirrors => hmirrors.update summary fun _ => rfl
    rw [onCatalog, onDirectory, registerAll_eq, registerWith, registerWith]
    refine .bind (.bind (follows_register _) fun read => ?_) fun ids => .pure ids.all
    refine .bind (follows_register _) fun tokenize => ?_
    refine .bind (follows_register _) fun summary => ?_
    refine .bind (follows_register _) fun stats => ?_
    refine .bind (hintroduce summary stats) fun _ => ?_
    refine .bind (follows_register _) fun emit => ?_
    exact .bind (follows_register _) fun report => .pure _
  | setSelected id selected =>
    exact follows_attempt (fun _ _ _ => size_of_updateKnown) fun _ _ hmirrors _ =>
      alike_updateKnown [] hmirrors fun _ => rfl
  | addChanges id count =>
    exact follows_attempt (fun _ _ _ => size_of_updateKnown) fun _ _ hmirrors _ =>
      alike_updateKnown [] hmirrors fun _ => rfl
  | selectArg arg =>
    refine follows_attempt (fun catalog answer after heq => ?_)
      fun catalog directory hmirrors _ => ?_
    · rw [Catalog.selectArg] at heq
      rcases hfound : catalog.findArg arg with _ | id
      · rw [hfound] at heq
        cases heq
      · rw [hfound] at heq
        exact size_of_updateKnown ((map_single _ id).symm.trans heq)
    · rw [Catalog.selectArg, Directory.selectArg, hmirrors.findArg_eq]
      rcases catalog.findArg arg with _ | id
      · exact .refused _
      · rw [map_single, map_single]
        exact alike_updateKnown [id] hmirrors fun _ => rfl
  | clearSelection =>
    exact follows_attempt (fun catalog _ _ heq => by cases heq; exact Std.ExtTreeMap.size_map.ge)
      fun _ _ hmirrors _ => .done [] hmirrors.clearSelection

end Request

theorem size_serve (requests : List Request) (catalog : Catalog) :
    catalog.size ≤ (serve Request.onCatalog requests catalog).2.size := by
  induction requests generalizing catalog with
  | nil => exact Nat.le_refl _
  | cons request rest ih => exact ((request.follows catalog {}).1).trans (ih _)

/-- A directory replies as the catalogue that it mirrors, and goes on mirroring it. -/
theorem serve_mirrors (requests : List Request) {catalog : Catalog} {directory : Directory}
    (hmirrors : directory.Mirrors catalog)
    (hroom : (serve Request.onCatalog requests catalog).2.size < 2 ^ 32) :
    (serve Request.onDirectory requests directory).1 =
        (serve Request.onCatalog requests catalog).1 ∧
      (serve Request.onDirectory requests directory).2.Mirrors
        (serve Request.onCatalog requests catalog).2 := by
  induction requests generalizing catalog directory with
  | nil => exact ⟨rfl, hmirrors⟩
  | cons request rest ih =>
    have hnext := (request.follows catalog directory).2 hmirrors ((size_serve rest _).trans_lt hroom)
    obtain ⟨hreply, hafter⟩ := hnext
    obtain ⟨hreplies, hlast⟩ := ih hafter hroom
    exact ⟨congrArg₂ List.cons hreply hreplies, hlast⟩

end PassPipeline
