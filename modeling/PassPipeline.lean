import PassPipeline.Json.Record
import PassPipeline.Main
import PassPipeline.Proofs.History.Independence
import PassPipeline.Proofs.History.Indexes
import PassPipeline.Proofs.Run.Prerequisites
import PassPipeline.Proofs.Schedule.Limit
import PassPipeline.Session
import PassPipeline.Proofs.Metrics.Entries
import PassPipeline.Proofs.Run.Accounts
import PassPipeline.Proofs.History.Ledger
import PassPipeline.Proofs.Catalog.Numbering
import PassPipeline.Proofs.Pipeline.Registration
import PassPipeline.Proofs.Run.Threading
import PassPipeline.Proofs.Text.Counting
import PassPipeline.Proofs.Pipeline.Planning
import PassPipeline.Proofs.Pipeline.Passes
import PassPipeline.Proofs.Pipeline.Execution
import PassPipeline.Proofs.Run.Twins
import PassPipeline.Proofs.Pipeline.Reading
import PassPipeline.Proofs.Pipeline.Sources
import PassPipeline.Proofs.Catalog.Lookup
import PassPipeline.Proofs.Catalog.Directory
import PassPipeline.Proofs.Catalog.Requests
import PassPipeline.Proofs.Pipeline.Enrolment
import PassPipeline.Proofs.Catalog.Consistency
import PassPipeline.Proofs.Run.Credits
import PassPipeline.Proofs.Run.Recording
import PassPipeline.Proofs.History.Changes
import PassPipeline.Proofs.Stream.Room
import PassPipeline.Proofs.Run.Outlets
import PassPipeline.Proofs.Pipeline.Truncation
import PassPipeline.Proofs.Pipeline.Capacity
import PassPipeline.Proofs.Catalog.Marking
import PassPipeline.Proofs.Invocation.Preparation
import PassPipeline.Proofs.Invocation.Furnishing
import PassPipeline.Proofs.Invocation.Launch
import PassPipeline.Proofs.Invocation.Arguments
import PassPipeline.Proofs.Invocation.Selection
import PassPipeline.Proofs.Settings.Layers
import PassPipeline.Proofs.Schedule.Locality
import PassPipeline.Proofs.Schedule.Links
import PassPipeline.Proofs.History.Streams
import PassPipeline.Proofs.Text.Lines
import PassPipeline.Proofs.Pipeline.RoundTrip
import PassPipeline.Proofs.Pipeline.Counts
import PassPipeline.Proofs.Report.Decoding
