/-!
# The settings of a manager

A manager is told how many slots a schedule may have and whether it records what
becomes of each slot.
-/

namespace PassPipeline

/-- The settings of a manager. -/
structure Settings where
  /-- The greatest number of slots of one schedule. -/
  scheduleLimit : Nat := 100000
  /-- Is the fate of each slot recorded? -/
  recordMetrics : Bool := true
  deriving DecidableEq, Repr, Inhabited

namespace Settings

/-- The key of the schedule limit. -/
def limitKey : String := "schedule_limit"

/-- The key of the recording of metrics. -/
def recordKey : String := "record_metrics"

end Settings

end PassPipeline
