import PassPipeline.Results
import PassPipeline.Event

/-!
# What a pass does when it runs

The run of a pass is a program: a tree whose nodes are the effects that a pass can
have on its surroundings and whose branches are the answers it can get.  A pass can
therefore do anything that depends on the answers, but nothing behind the back of
its manager, and a statement about every program is a statement about every pass.
A pass can also die, by itself or of an effect; then there is no answer to go on with.
-/

namespace PassPipeline

/-- The effects that a running pass can have. -/
inductive Effect where
  | whoAmI
  /-- Read the value stored under an identity. -/
  | fetch (id : PassId) (kind : Kind)
  /-- Ask whether a value is stored under an identity. -/
  | holds (id : PassId)
  | store (id : PassId) (value : Value)
  /-- Remove the value stored under an identity. -/
  | discard (id : PassId)
  /-- Ask for the identities that have a value. -/
  | stored
  | write (text : String)
  | readInput
  /-- Set or clear the selection flag of a pass. -/
  | mark (id : PassId) (selected : Bool)
  /-- Add to the change counter of a pass. -/
  | credit (id : PassId) (count : UInt64)
  /-- Ask for the change counter and the selection flag of a pass. -/
  | inspect (id : PassId)
  | withdraw (id : PassId)
  /-- Ask for what the pass type remembers from earlier runs. -/
  | recall
  /-- Make the pass type remember a number. -/
  | remember (memory : Nat)
  | note (text : String)
  | log (level : Level) (text : String)
  /-- Die by itself. -/
  | panic

/-- The type of the answer to an effect. -/
abbrev Effect.Answer : Effect → Type
  | .whoAmI => PassId
  | .fetch _ kind => Except PassError kind.Content
  | .holds _ => Bool
  | .store _ _ => Unit
  | .discard _ => Bool
  | .stored => List PassId
  | .write _ => Except PassError Unit
  | .readInput => Option String
  | .mark _ _ => Except PassError Unit
  | .credit _ _ => Except PassError Unit
  | .inspect _ => Except PassError (UInt64 × Bool)
  | .withdraw _ => Bool
  | .recall => Nat
  | .remember _ => Unit
  | .note _ => Unit
  | .log _ _ => Unit
  | .panic => Empty

/-- A program that ends with a value. -/
inductive Program (α : Type) where
  | done (value : α)
  /-- It has an effect and goes on with the answer. -/
  | perform (effect : Effect) (next : effect.Answer → Program α)

namespace Program

/-- The program that has one effect and ends with the answer. -/
def effect (effect : Effect) : Program effect.Answer := .perform effect .done

/-- Goes on with a second program when the first has ended. -/
def andThen {α β : Type} : Program α → (α → Program β) → Program β
  | .done value, next => next value
  | .perform effect rest, next => .perform effect fun answer => (rest answer).andThen next

instance : Monad Program where
  pure := .done
  bind := andThen

@[simp]
theorem pure_bind {α β : Type} (value : α) (next : α → Program β) :
    (pure value >>= next) = next value := rfl

@[simp]
theorem perform_bind {α β : Type} (effect : Effect) (rest : effect.Answer → Program α)
    (next : α → Program β) :
    (Program.perform effect rest >>= next) =
      Program.perform effect fun answer => rest answer >>= next := rfl

end Program

/-- What a pass reports when its run has ended. -/
structure Report where
  succeeded : Bool
  /-- What the check after the run answers. -/
  verified : Bool := true
  /-- The number of changes that the run made. -/
  changes : UInt64 := 0
  deriving DecidableEq, Repr

/-- The report of a failed run. -/
def Report.failure : Report := { succeeded := false }

end PassPipeline
