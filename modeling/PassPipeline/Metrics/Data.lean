import PassPipeline.Calendar
import PassPipeline.Json
import PassPipeline.Metrics

/-!
# Execution statistics as data

The counters are an object with one member each; what is kept by pass name is an object of
its own.  A duration is given in seconds and nanoseconds.
-/

namespace PassPipeline.Metrics

/-- What is kept by name, in ascending order of the names. -/
def byName {α : Type} (encode : α → Json) (map : NameMap α) : Json :=
  .object (map.toList.map fun entry => (entry.1, encode entry.2))

/-- A duration as data. -/
def durationData (duration : Duration) : Json :=
  .object [("secs", .nat (duration / Instant.perSecond)),
    ("nanos", .nat (duration % Instant.perSecond))]

/-- A count as data. -/
def countData (count : UInt64) : Json := .nat count.toNat

/-- The statistics as data. -/
def toJson (metrics : Metrics) : Json :=
  .object [
    ("runs", countData metrics.runs),
    ("passes_executed", byName countData metrics.executed),
    ("passes_failed", byName countData metrics.failed),
    ("passes_skipped", countData metrics.skipped),
    ("avg_pass_duration", byName durationData metrics.averages),
    ("last_run", byName (fun instant => .text (Instant.written instant)) metrics.lastRun),
    ("last_schedule_len", .nat metrics.lastScheduleLength)]

end PassPipeline.Metrics
