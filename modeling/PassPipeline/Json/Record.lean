import PassPipeline.Json.Reader
import PassPipeline.PassId
import PassPipeline.Settings

/-!
# Records as data

A pass identity is a number.  The settings are an object whose members may be absent
but not repeated, with members of other names passed over; or an array that gives the
settings in order and may end early.
-/

namespace PassPipeline

/-- The number of a piece of data, if it is one below the bound. -/
def Json.natBelow? (bound : Nat) : Json → Option Nat
  | .int (.ofNat value) => if value < bound then some value else none
  | _ => none

/-- The truth value of a piece of data. -/
def Json.bool? : Json → Option Bool
  | .bool value => some value
  | _ => none

/-- The first number that is no identity. -/
def PassId.bound : Nat := UInt32.size

/-- The identity that data describes. -/
def PassId.ofJson? (data : Json) : Option PassId := (data.natBelow? bound).map .ofNat

/-- The identity that a text describes. -/
def PassId.parse? (text : String) : Option PassId := (Json.parse text).bind ofJson?

namespace Settings

/-- The value of the only member of that name, if there is one. -/
def member? (members : List (String × Json)) (key : String) : Option (Option Json) :=
  match members.filter (·.1 == key) with
  | [] => some none
  | [(_, value)] => some (some value)
  | _ => none

/-- Changes settings by data that may be absent. -/
def change? {α : Type} (decode : Json → Option α) (change : Settings → α → Settings)
    (settings : Settings) : Option Json → Option Settings
  | none => some settings
  | some data => (decode data).map (change settings)

/-- The built-in settings with a limit and a choice that may be absent. -/
def ofParts? (limit record : Option Json) : Option Settings := do
  let limited ← change? (·.natBelow? Text.wordBound) ({ · with scheduleLimit := · }) {} limit
  change? (·.bool?) ({ · with recordMetrics := · }) limited record

/-- The settings that data describes. -/
def ofJson? : Json → Option Settings
  | .object members => do ofParts? (← member? members limitKey) (← member? members recordKey)
  | .array [] => some {}
  | .array [limit] => ofParts? (some limit) none
  | .array [limit, record] => ofParts? (some limit) (some record)
  | _ => none

/-- The settings that a text describes. -/
def parse? (text : String) : Option Settings := (Json.parse text).bind ofJson?

end Settings

end PassPipeline
