import PassPipeline.Proofs.Catalog.Requests

/-!
# Names stay unique

However many passes are registered, and whatever else is asked of a catalogue, no two of its
entries share a name (`unique_serve`).  A registration is refused for a name that is taken, and
nothing else gives a name to an entry.  That the numbers may run out does not matter here.
-/

namespace PassPipeline

open TextPipeline Catalog

/-- What is computed leaves a condition as it is. -/
def Keeps {α : Type} (condition : Catalog → Prop) (change : ExceptT PassError (StateM Catalog) α) :
    Prop :=
  ∀ catalog, condition catalog → condition (change.run catalog).2

namespace Keeps

variable {α β : Type} {condition : Catalog → Prop}

theorem pure (value : α) : Keeps condition (Pure.pure value) := fun _ hcondition => hcondition

theorem bind {first : ExceptT PassError (StateM Catalog) α}
    {next : α → ExceptT PassError (StateM Catalog) β} (hfirst : Keeps condition first)
    (hnext : ∀ value, Keeps condition (next value)) : Keeps condition (first >>= next) := by
  intro catalog hcondition
  have hafter := hfirst catalog hcondition
  rw [run_bind]
  rcases hrun : first.run catalog with ⟨error | value, after⟩
  · rwa [hrun] at hafter
  · rw [hrun] at hafter
    exact hnext value after hafter

theorem attempt {change : Catalog → Except PassError (α × Catalog)}
    (hchange : ∀ {catalog answer after}, change catalog = .ok (answer, after) →
      condition catalog → condition after) : Keeps condition (attempt change) := by
  intro catalog hcondition
  rw [run_attempt]
  rcases hrun : change catalog with error | ⟨answer, after⟩
  · exact hcondition
  · exact hchange hrun hcondition

end Keeps

namespace Catalog

variable {κ : Type} {key : Card → Option κ} {catalog after : Catalog}

/-- Only the cards matter. -/
theorem Unique.of_cards (hunique : catalog.Unique key)
    (hcards : ∀ id, after.card? id = catalog.card? id) : after.Unique key := by
  intro id other card another value hcard hanother
  rw [hcards] at hcard hanother
  exact hunique hcard hanother

theorem Unique.updateKnown {α : Type} {id : PassId} {change : Descriptor → Descriptor}
    {answer reply : α} (hunique : catalog.Unique key)
    (hupdate : (catalog.updateKnown id change).map (fun after => (reply, after)) =
      .ok (answer, after)) (hchange : ∀ pass, (change pass).card = pass.card) :
    after.Unique key := by
  rw [Catalog.updateKnown] at hupdate
  rcases hinfo : catalog.info id with error | pass <;> rw [hinfo] at hupdate
  · cases hupdate
  · cases hupdate
    exact hunique.of_cards fun _ => card?_update hchange

end Catalog

theorem keeps_enter (registration : Registration) :
    Keeps (·.Unique Card.naming) (enter registration) := by
  intro catalog hunique
  have hrun := run_enter_bind registration catalog pure
  rw [bind_pure] at hrun
  rw [hrun]
  rcases hregister : catalog.register registration with error | ⟨id, after⟩
  · exact hunique
  · obtain ⟨hnone, -, rfl⟩ := register_eq_ok_iff.mp hregister
    obtain ⟨hname, -⟩ := conflict?_eq_none_iff.mp hnone
    refine hunique.install fun value hvalue => ?_
    rwa [← Option.some.inj hvalue]

theorem Request.keeps_names (request : Request) :
    Keeps (·.Unique Card.naming) request.onCatalog := by
  cases request with
  | register registration => exact (keeps_enter registration).bind fun id => .pure [id]
  | registerPipeline =>
    have hintroduce : ∀ summary counting,
        Keeps (·.Unique Card.naming) (modify (introduce · summary counting)) :=
      fun summary counting catalog hunique =>
        Unique.of_cards hunique fun _ => card?_update fun _ => rfl
    -- Six registrations, and between them a change that leaves the names.
    rw [onCatalog, registerAll_eq, registerWith]
    refine .bind (.bind (keeps_enter _) fun read => ?_) fun ids => .pure ids.all
    refine .bind (keeps_enter _) fun tokenize => ?_
    refine .bind (keeps_enter _) fun summary => ?_
    refine .bind (keeps_enter _) fun stats => ?_
    refine .bind (hintroduce summary stats) fun _ => ?_
    refine .bind (keeps_enter _) fun emit => ?_
    exact .bind (keeps_enter _) fun report => .pure _
  | setSelected id selected =>
    exact .attempt fun hupdate hunique => hunique.updateKnown hupdate fun _ => rfl
  | addChanges id count =>
    exact .attempt fun hupdate hunique => hunique.updateKnown hupdate fun _ => rfl
  | selectArg arg =>
    refine .attempt fun {catalog answer after} heq hunique => ?_
    rw [Catalog.selectArg] at heq
    rcases hfound : catalog.findArg arg with _ | id
    · rw [hfound] at heq
      cases heq
    · rw [hfound] at heq
      exact hunique.updateKnown ((map_single _ id).symm.trans heq) fun _ => rfl
  | clearSelection =>
    refine .attempt fun heq hunique => ?_
    cases heq
    exact hunique.of_cards fun _ => card?_clearSelection

theorem unique_serve (requests : List Request) {catalog : Catalog}
    (hunique : catalog.Unique Card.naming) :
    (serve Request.onCatalog requests catalog).2.Unique Card.naming := by
  induction requests generalizing catalog with
  | nil => exact hunique
  | cons request rest ih => exact ih (request.keeps_names catalog hunique)

end PassPipeline
