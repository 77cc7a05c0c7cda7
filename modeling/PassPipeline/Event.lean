import PassPipeline.PassId
import PassPipeline.Text.Terminal

/-!
# What can be observed of a run

The trace of a run lists, in order, every call that a manager makes to a pass, the
remarks that passes make while they run, every call of the flush hook and every
message written to the log.
-/

namespace PassPipeline

/-- The calls that a manager makes to a pass. -/
inductive Phase where
  /-- A fresh instance for a slot of the schedule. -/
  | construct
  /-- A fresh instance that only declares its usage. -/
  | constructInternal
  | usage
  | setStream
  | setUp
  | run
  | verify
  | tearDown
  | changes
  deriving DecidableEq, Repr

/-- The word for a call in a transcript. -/
def Phase.word : Phase → String
  | .construct => "new"
  | .constructInternal => "new-internal"
  | .usage => "usage"
  | .setStream => "stream"
  | .setUp => "init"
  | .run => "run"
  | .verify => "verify"
  | .tearDown => "final"
  | .changes => "changes"

/-- The severity of a message, the gravest first. -/
inductive Level where
  | error
  | warn
  | info
  | debug
  | trace
  deriving DecidableEq, Repr

namespace Level

/-- The name of a level, as it is printed. -/
def name : Level → String
  | .error => "ERROR"
  | .warn => "WARN"
  | .info => "INFO"
  | .debug => "DEBUG"
  | .trace => "TRACE"

/-- The levels that a filter of this level lets through have at most this rank. -/
def rank : Level → Nat
  | .error => 1
  | .warn => 2
  | .info => 3
  | .debug => 4
  | .trace => 5

end Level

/-- The part of the program that writes a message. -/
inductive Topic where
  | settings
  | management
  | selection
  | execution
  | pipeline
  | configuration
  | program
  deriving DecidableEq, Repr

/-- The path by which a filter selects the messages of a part. -/
def Topic.path : Topic → String
  | .settings => "libpass_core::config"
  | .management => "libpass_manager::manager::core"
  | .selection => "libpass_manager::manager::scheduling"
  | .execution => "libpass_manager::manager::execution"
  | .pipeline => "libpass::passes"
  | .configuration => "libpass::config"
  | .program => "libpass"

/-- A length of time in nanoseconds. -/
abbrev Duration := Nat

/-- A point in time, in nanoseconds since 1970. -/
abbrev Instant := Nat

/-- A message for the log. -/
structure Message where
  level : Level
  /-- The part that writes it. -/
  topic : Topic
  text : String
  /-- The time that the reported work took, if the message tells it. -/
  took : Option Duration := none
  /-- The name and the text of a value that the message carries. -/
  detail : Option (String × String) := none
  deriving DecidableEq, Repr

/-- The wording of a message with what it carries, given the wording of lengths of time. -/
def Message.wording (message : Message) (duration : Duration → String) : String :=
  Text.Terminal.forLog message.text ++
    (match message.took with
    | some took => " (took: " ++ duration took ++ ")"
    | none => "") ++
    (match message.detail with
    | some (name, value) => " " ++ name ++ "=" ++ value
    | none => "")

/-- One thing that can be observed. -/
inductive Event where
  /-- A manager calls the pass with that identity and name. -/
  | call (id : PassId) (name : String) (phase : Phase)
  /-- The running pass makes a remark. -/
  | note (id : PassId) (name : String) (text : String)
  | flush
  | log (message : Message)
  deriving DecidableEq, Repr

end PassPipeline
