import PassPipeline.World

/-!
# Which effects a program has

Which effects a program has depends on the answers that it gets, so they are told for a scene in
which it begins (`Program.effects`).  For programs that have only effects of one kind, whatever the
answers are, there is `Program.Within`.  A program that dies has no further effects: it dies by
itself, or of a text that it writes (`Scene.hears_write`).
-/

namespace PassPipeline

/-! ## Kinds of effects -/

namespace Effect

def isReadInput : Effect → Bool
  | .readInput => true
  | _ => false

def isPanic : Effect → Bool
  | .panic => true
  | _ => false

/-- The effect changes neither the catalogue nor the standard input, removes no value and is no
death. -/
def isTame : Effect → Bool
  | .discard _ | .readInput | .mark _ _ | .credit _ _ | .withdraw _ | .remember _ | .panic => false
  | _ => true

theorem isReadInput_of_isTame {effect : Effect} (htame : effect.isTame = true) :
    effect.isReadInput = false := by
  cases effect with
  | readInput => cases htame
  | _ => rfl

theorem isPanic_of_isTame {effect : Effect} (htame : effect.isTame = true) :
    effect.isPanic = false := by
  cases effect with
  | panic => cases htame
  | _ => rfl

end Effect

/-- What a pass hears of the stream to which it writes. -/
def Scene.heard : Except Halt Unit → Option (Except PassError Unit)
  | .ok () => some (.ok ())
  | .error (.refused error) => some (.error error)
  | .error .panicked => none

/-- A running pass that writes hears what the stream answers, and leaves the stream as the call
has left it. -/
theorem Scene.hears_write (scene : Scene) (text : String) :
    scene.perform (.write text) =
      (heard (scene.stream.writeText text).1,
        { scene with stream := (scene.stream.writeText text).2 }) := by
  rw [perform]
  rcases scene.stream.writeText text with ⟨(error | ⟨⟩) | ⟨⟩, stream⟩ <;> rfl

/-! ## Programs -/

namespace Program

/-- The effects that the program has, in order, up to the one that it dies of. -/
def effects {α : Type} : Program α → Scene → List Effect
  | .done _, _ => []
  | .perform effect next, scene =>
    effect ::
      match scene.perform effect with
      | (some answer, after) => (next answer).effects after
      | (none, _) => []

/-- Whatever the answers are, the program has only effects of that kind. -/
def Within (kind : Effect → Bool) {α : Type} : Program α → Prop
  | .done _ => True
  | .perform effect next => kind effect = true ∧ ∀ answer, (next answer).Within kind

variable {kind other : Effect → Bool}

theorem Within.bind {α β : Type} {program : Program α} {next : α → Program β}
    (hprogram : program.Within kind) (hnext : ∀ value, (next value).Within kind) :
    (program >>= next).Within kind := by
  induction program with
  | done value => exact hnext value
  | perform effect rest ih => exact ⟨hprogram.1, fun answer => ih answer (hprogram.2 answer)⟩

theorem Within.mono {α : Type} {program : Program α} (hwithin : program.Within kind)
    (hkind : ∀ effect, kind effect = true → other effect = true) : program.Within other := by
  induction program with
  | done value => trivial
  | perform effect rest ih =>
      exact ⟨hkind effect hwithin.1, fun answer => ih answer (hwithin.2 answer)⟩

theorem Within.mem_effects {α : Type} {program : Program α} (hwithin : program.Within kind)
    (scene : Scene) : ∀ effect ∈ program.effects scene, kind effect = true := by
  induction program generalizing scene with
  | done value => exact List.forall_mem_nil _
  | perform effect next ih =>
      rw [effects, List.forall_mem_cons]
      refine ⟨hwithin.1, ?_⟩
      rcases scene.perform effect with ⟨_ | answer, after⟩
      · exact List.forall_mem_nil _
      · exact ih answer (hwithin.2 answer) after

/-- The program does not die by itself, whatever the answers are. -/
def Lasts {α : Type} (program : Program α) : Prop := program.Within fun effect => !effect.isPanic

theorem Within.lasts {α : Type} {program : Program α} (htame : program.Within Effect.isTame) :
    program.Lasts :=
  htame.mono fun effect heffect => by rw [Effect.isPanic_of_isTame heffect]; rfl

end Program

end PassPipeline
