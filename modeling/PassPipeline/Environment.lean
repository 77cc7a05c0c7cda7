import PassPipeline.Settings
import PassPipeline.Text.Number
import PassPipeline.Text.System

/-!
# The environment

The environment gives values to names, of which a program takes those that are texts.  Two
of the names are settings of managers: what their values do not say in the expected form
is left at the built-in setting, and an empty value counts as none.
-/

namespace PassPipeline

/-- The variables of the environment.  The first value of a name counts. -/
structure Environment where
  /-- The names and their values. -/
  bindings : List (OsText × OsText) := []
  deriving Inhabited

namespace Environment

/-- The environment in which names have those texts as values. -/
def ofTexts (bindings : List (String × String)) : Environment :=
  ⟨bindings.map fun (name, value) => (name.toUTF8, value.toUTF8)⟩

/-- The value of a name. -/
def value? (environment : Environment) (name : String) : Option OsText :=
  (environment.bindings.find? (·.1 = name.toUTF8)).map Prod.snd

/-- The text that a name has as its value. -/
def get? (environment : Environment) (name : String) : Option String :=
  (environment.value? name).bind String.fromUTF8?

/-- Gives a value to a name whose value is no text. -/
def define (environment : Environment) (name value : String) : Environment :=
  if (environment.get? name).isSome then environment
  else ⟨(name.toUTF8, value.toUTF8) :: environment.bindings⟩

/-- The name and the value of a line of the form `name=value`. -/
def ofLine? (line : List UInt8) : Option (OsText × OsText) :=
  match line.span (· ≠ 0x3D) with
  | (name, 0x3D :: value) => some (⟨name.toArray⟩, ⟨value.toArray⟩)
  | _ => none

/-- The variables that bytes list, each ended by a zero. -/
def ofBytes (bytes : ByteArray) : Environment :=
  ⟨(bytes.toList.splitBy fun byte _ => byte ≠ 0).filterMap fun line =>
    ofLine? (line.filter (· ≠ 0))⟩

/-- The text that a name has as its value, unless it is empty. -/
def nonempty? (environment : Environment) (name : String) : Option String :=
  (environment.get? name).filter (!·.isEmpty)

end Environment

namespace Settings

/-- The variable of the schedule limit. -/
def limitVariable : String := "LIBPASS_SCHEDULE_LIMIT"

/-- The variable of the recording of metrics. -/
def recordVariable : String := "LIBPASS_RECORD_METRICS"

/-- The truth value that a word names. -/
def truth? (word : String) : Option Bool :=
  if word = "1" ∨ word = "true" ∨ word = "yes" then some true
  else if word = "0" ∨ word = "false" ∨ word = "no" then some false
  else none

/-- The settings that the environment gives. -/
def ofEnvironment (environment : Environment) : Settings where
  scheduleLimit :=
    ((environment.nonempty? limitVariable).bind fun value => Text.word? value.toList).getD
      ({} : Settings).scheduleLimit
  recordMetrics :=
    ((environment.nonempty? recordVariable).bind truth?).getD ({} : Settings).recordMetrics

end Settings

end PassPipeline
