import PassPipeline.Event
import Std.Data.ExtTreeMap

/-!
# Execution statistics

A manager counts its runs, the slots that succeeded, failed or were skipped, and
keeps for every pass name the mean duration of its successful slots.  A count has 64 bits
and starts again from zero when it overflows.  The mean is brought up to date with each
duration, in double precision and in nanoseconds, and cut down to a whole number that fits
64 bits.
-/

namespace PassPipeline

/-- A finite map keyed by pass names, listed in ascending order. -/
abbrev NameMap (α : Type) := Std.ExtTreeMap String α

/-- What a manager has counted. -/
structure Metrics where
  /-- The runs that reached execution. -/
  runs : UInt64 := 0
  /-- The successful slots of each name. -/
  executed : NameMap UInt64 := ∅
  /-- The failed slots of each name. -/
  failed : NameMap UInt64 := ∅
  skipped : UInt64 := 0
  /-- The mean duration of the successful slots of each name. -/
  averages : NameMap Duration := ∅
  /-- The end of the latest successful slot of each name. -/
  lastRun : NameMap Instant := ∅
  /-- The length of the latest schedule. -/
  lastScheduleLength : Nat := 0

namespace Metrics

/-- Adds one to the count of a name. -/
def increment (counts : NameMap UInt64) (name : String) : NameMap UInt64 :=
  counts.insert name (counts.getD name 0 + 1)

theorem getD_increment {counts : NameMap UInt64} {name other : String} :
    (increment counts name).getD other 0 =
      if name = other then counts.getD other 0 + 1 else counts.getD other 0 := by
  simp [increment, Std.ExtTreeMap.getD_insert]
  grind

/-- The mean of `count` durations, the latest of them `latest`, if `previous` is the
mean of the others. -/
def runningMean (previous latest : Duration) (count : UInt64) : Duration :=
  if count = 1 then latest
  else
    let mean := Float.ofNat previous
    (mean + (Float.ofNat latest - mean) / count.toFloat).toUInt64.toNat

/-- Records a successful slot. -/
def recordExecution (metrics : Metrics) (name : String) (duration : Duration)
    (finished : Instant) : Metrics :=
  let executed := increment metrics.executed name
  { metrics with
    executed
    lastRun := metrics.lastRun.insert name finished
    averages := metrics.averages.insert name
      (runningMean (metrics.averages.getD name 0) duration (executed.getD name 0)) }

/-- Records a failed slot. -/
def recordFailure (metrics : Metrics) (name : String) : Metrics :=
  { metrics with failed := increment metrics.failed name }

/-- Records a skipped slot. -/
def recordSkip (metrics : Metrics) : Metrics := { metrics with skipped := metrics.skipped + 1 }

/-- Records that a schedule of that length is about to be executed. -/
def recordSchedule (metrics : Metrics) (length : Nat) : Metrics :=
  { metrics with runs := metrics.runs + 1, lastScheduleLength := length }

end Metrics

end PassPipeline
