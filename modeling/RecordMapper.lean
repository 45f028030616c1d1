import RecordMapper.Engine.Envelope
import RecordMapper.Engine.Recorder
import RecordMapper.Model.Aggregate
import RecordMapper.Model.Bulk
import RecordMapper.Model.Tables
import RecordMapper.Proofs.Aggregate.Asking
import RecordMapper.Proofs.Aggregate.Columns
import RecordMapper.Proofs.Aggregate.NearestRank
import RecordMapper.Proofs.Aggregate.Ordering
import RecordMapper.Proofs.Aggregate.Percentiles
import RecordMapper.Proofs.Aggregate.Reports
import RecordMapper.Proofs.Bulk.Batches
import RecordMapper.Proofs.Bulk.Deletions
import RecordMapper.Proofs.Bulk.Deliveries
import RecordMapper.Proofs.Bulk.InTurn
import RecordMapper.Proofs.Bulk.Layout
import RecordMapper.Proofs.Bulk.Limits
import RecordMapper.Proofs.Bulk.Rejections
import RecordMapper.Proofs.Document.Numbers
import RecordMapper.Proofs.Document.ReadBack
import RecordMapper.Proofs.Engine.Recorder
import RecordMapper.Proofs.Failure.LetterCase
import RecordMapper.Proofs.Failure.Names
import RecordMapper.Proofs.Hooks.Changes
import RecordMapper.Proofs.Hooks.Order
import RecordMapper.Proofs.Instant.Canonical
import RecordMapper.Proofs.Instant.Spellings
import RecordMapper.Proofs.Model.Alike
import RecordMapper.Proofs.Model.ColumnDefaults
import RecordMapper.Proofs.Model.Counting
import RecordMapper.Proofs.Model.Defaults
import RecordMapper.Proofs.Model.Excerpts
import RecordMapper.Proofs.Model.Hidden
import RecordMapper.Proofs.Model.Sessions
import RecordMapper.Proofs.Model.Settling
import RecordMapper.Proofs.Model.Stamps
import RecordMapper.Proofs.Model.Tables
import RecordMapper.Proofs.Record.Documents
import RecordMapper.Proofs.Record.Edits
import RecordMapper.Proofs.Schema.Bounds
import RecordMapper.Proofs.Schema.Declaration
import RecordMapper.Proofs.Schema.DefaultLiterals
import RecordMapper.Proofs.Schema.Instants
import RecordMapper.Proofs.Schema.Violations
import RecordMapper.Proofs.Settings.Layers
import RecordMapper.Proofs.Sql.OrderReading
import RecordMapper.Proofs.Sql.Orders
import RecordMapper.Proofs.Sql.Placeholders
import RecordMapper.Proofs.Sql.ReadBack
import RecordMapper.Proofs.Storage.Lookups
import RecordMapper.Proofs.Storage.ReadBack
import RecordMapper.Proofs.Storage.Revalidation
import RecordMapper.Proofs.Upsert.Insertions
import RecordMapper.Proofs.Upsert.Keys
import RecordMapper.Proofs.Upsert.Outcomes
import RecordMapper.Proofs.Upsert.Payloads
import RecordMapper.Proofs.Upsert.Race
import RecordMapper.Schema.Samples
import RecordMapper.Settings.Loading
