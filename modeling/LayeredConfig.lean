import LayeredConfig.StringMap.Lemmas
import LayeredConfig.Journal
import LayeredConfig.Text.Blank
import LayeredConfig.Text.Word
import LayeredConfig.Text.Hidden
import LayeredConfig.Text.CaseFold
import LayeredConfig.Error
import LayeredConfig.Property
import LayeredConfig.Timestamp
import LayeredConfig.Json.Parser
import LayeredConfig.Json.Decode
import LayeredConfig.Conversion
import LayeredConfig.Listeners
import LayeredConfig.Validators
import LayeredConfig.Expression.Segment
import LayeredConfig.Expression.Evaluator
import LayeredConfig.Pattern
import LayeredConfig.Property.Json
import LayeredConfig.Request.Json
import LayeredConfig.Configuration
import LayeredConfig.DynamicValue
import LayeredConfig.Backup.Json
import LayeredConfig.Editor
import LayeredConfig.Proofs.Expression.Pass
import LayeredConfig.Proofs.Expression.Survival
import LayeredConfig.Proofs.Expression.Expansion
import LayeredConfig.Proofs.Expression.Bytes
import LayeredConfig.Proofs.Expression.Canonical
import LayeredConfig.Proofs.Expression.Settling
import LayeredConfig.Proofs.Expression.Dispatch
import LayeredConfig.Proofs.Expression.Indirection
import LayeredConfig.Proofs.Expression.Shortcut
import LayeredConfig.Proofs.Expression.Quoting
import LayeredConfig.Proofs.Source.Listing
import LayeredConfig.Proofs.View.Reads
import LayeredConfig.Proofs.View.Bulk
import LayeredConfig.Proofs.SideBySide
import LayeredConfig.Proofs.View.Masking
import LayeredConfig.Proofs.View.References
import LayeredConfig.Proofs.View.Failures
import LayeredConfig.Proofs.View.Filtering
import LayeredConfig.Proofs.View.Search
import LayeredConfig.Proofs.DynamicValue.Run
import LayeredConfig.Proofs.DynamicValue.History
import LayeredConfig.Proofs.DynamicValue.Frozen
import LayeredConfig.Proofs.DynamicValue.Following
import LayeredConfig.Proofs.Source.Content
import LayeredConfig.Proofs.Request.Batch
import LayeredConfig.Proofs.Propagation.Errand
import LayeredConfig.Proofs.Propagation.Routing
import LayeredConfig.Proofs.Propagation.Truth
import LayeredConfig.Proofs.Propagation.Partition
import LayeredConfig.Proofs.Registry.Sound
import LayeredConfig.Proofs.Registry.Order
import LayeredConfig.Proofs.Backup.Store
import LayeredConfig.Proofs.Editor.Store
import LayeredConfig.Proofs.Editor.Validation
import LayeredConfig.Proofs.Editor.Notice
import LayeredConfig.Proofs.Editor.ReadBack
import LayeredConfig.Proofs.Editor.Unheard
import LayeredConfig.Proofs.Editor.Rollback
import LayeredConfig.Proofs.Json.Forms
import LayeredConfig.Proofs.Conversion.Integers
import LayeredConfig.Proofs.Backup.Export
import LayeredConfig.Proofs.Backup.History
import LayeredConfig.Proofs.Backup.Import
import LayeredConfig.Proofs.Listeners.Delivery
import LayeredConfig.Proofs.Json.Documents
