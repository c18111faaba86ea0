import ManifestRegistry.Base64
import ManifestRegistry.Binary64
import ManifestRegistry.Binary64.Shortest
import ManifestRegistry.Broadcast
import ManifestRegistry.Config.Basic
import ManifestRegistry.Config.DatabasePath
import ManifestRegistry.Config.Environment
import ManifestRegistry.Cursor
import ManifestRegistry.Event
import ManifestRegistry.Failure
import ManifestRegistry.Filter
import ManifestRegistry.Instant.Basic
import ManifestRegistry.Instant.Calendar
import ManifestRegistry.Instant.Format
import ManifestRegistry.Json.Basic
import ManifestRegistry.Json.Nesting
import ManifestRegistry.Json.Printer
import ManifestRegistry.Json.Source
import ManifestRegistry.Json.Token
import ManifestRegistry.Manifest.Basic
import ManifestRegistry.Manifest.Document
import ManifestRegistry.Manifest.Structure
import ManifestRegistry.Manifest.Validation
import ManifestRegistry.Page
import ManifestRegistry.Proofs.Broadcast.Delivery
import ManifestRegistry.Proofs.Events.Document
import ManifestRegistry.Proofs.Identity.Text
import ManifestRegistry.Proofs.Instant.Calendar
import ManifestRegistry.Proofs.Instant.Chronology
import ManifestRegistry.Proofs.Instant.Format
import ManifestRegistry.Proofs.Instant.Reading
import ManifestRegistry.Proofs.Instant.Stamps
import ManifestRegistry.Proofs.Instant.Windows
import ManifestRegistry.Proofs.Json.Depth
import ManifestRegistry.Proofs.Json.Numbers
import ManifestRegistry.Proofs.Json.Tokens
import ManifestRegistry.Proofs.Json.Tree
import ManifestRegistry.Proofs.Manifest.Document
import ManifestRegistry.Proofs.Manifest.Legible
import ManifestRegistry.Proofs.Paging.Cursors
import ManifestRegistry.Proofs.Paging.Document
import ManifestRegistry.Proofs.Paging.Pages
import ManifestRegistry.Proofs.Paging.Spellings
import ManifestRegistry.Proofs.Paging.Walks
import ManifestRegistry.Proofs.Records.Document
import ManifestRegistry.Proofs.Records.Imprint
import ManifestRegistry.Proofs.Records.Orderly
import ManifestRegistry.Proofs.Records.Settled
import ManifestRegistry.Proofs.Records.Succession
import ManifestRegistry.Proofs.Registry.Alike
import ManifestRegistry.Proofs.Registry.Alone
import ManifestRegistry.Proofs.Registry.Bags
import ManifestRegistry.Proofs.Registry.Chronicle
import ManifestRegistry.Proofs.Registry.Discipline
import ManifestRegistry.Proofs.Registry.Editing
import ManifestRegistry.Proofs.Registry.Exclusive
import ManifestRegistry.Proofs.Registry.Growth
import ManifestRegistry.Proofs.Registry.Isolation
import ManifestRegistry.Proofs.Registry.Numbers
import ManifestRegistry.Proofs.Registry.Owners
import ManifestRegistry.Proofs.Registry.Rations
import ManifestRegistry.Proofs.Registry.Receipts
import ManifestRegistry.Proofs.Registry.Reference
import ManifestRegistry.Proofs.Registry.Roaming
import ManifestRegistry.Proofs.Registry.Tours
import ManifestRegistry.Proofs.Registry.TwoWrite
import ManifestRegistry.Proofs.Registry.Unspoiled
import ManifestRegistry.Proofs.Registry.Updates
import ManifestRegistry.Proofs.Registry.Upshots
import ManifestRegistry.Proofs.Registry.Versions
import ManifestRegistry.Proofs.Registry.Visits
import ManifestRegistry.Proofs.Service.Attempts
import ManifestRegistry.Proofs.Service.Authors
import ManifestRegistry.Proofs.Service.Carrying
import ManifestRegistry.Proofs.Service.Ceiling
import ManifestRegistry.Proofs.Service.Collecting
import ManifestRegistry.Proofs.Service.Convergence
import ManifestRegistry.Proofs.Service.Conversation
import ManifestRegistry.Proofs.Service.Courses
import ManifestRegistry.Proofs.Service.Edit
import ManifestRegistry.Proofs.Service.Gates
import ManifestRegistry.Proofs.Service.Guarding
import ManifestRegistry.Proofs.Service.InStep
import ManifestRegistry.Proofs.Service.Interleaving
import ManifestRegistry.Proofs.Service.Latest
import ManifestRegistry.Proofs.Service.LostEdits
import ManifestRegistry.Proofs.Service.Moves
import ManifestRegistry.Proofs.Service.Overwrites
import ManifestRegistry.Proofs.Service.Passing
import ManifestRegistry.Proofs.Service.Publish
import ManifestRegistry.Proofs.Service.Reasons
import ManifestRegistry.Proofs.Service.Remainders
import ManifestRegistry.Proofs.Service.Residents
import ManifestRegistry.Proofs.Service.Revision
import ManifestRegistry.Proofs.Service.Rivals
import ManifestRegistry.Proofs.Service.Soundness
import ManifestRegistry.Proofs.Service.Undisturbed
import ManifestRegistry.Proofs.Shape.Layout
import ManifestRegistry.Proofs.Storage.Agreement
import ManifestRegistry.Proofs.Storage.Cabinet
import ManifestRegistry.Proofs.Storage.Candid
import ManifestRegistry.Proofs.Storage.Closing
import ManifestRegistry.Proofs.Storage.Columns
import ManifestRegistry.Proofs.Storage.Counting
import ManifestRegistry.Proofs.Storage.Halfway
import ManifestRegistry.Proofs.Storage.Holdings
import ManifestRegistry.Proofs.Storage.Ledger
import ManifestRegistry.Proofs.Storage.Level
import ManifestRegistry.Proofs.Storage.Listing
import ManifestRegistry.Proofs.Storage.Memory
import ManifestRegistry.Proofs.Storage.Numbers
import ManifestRegistry.Proofs.Storage.Parts
import ManifestRegistry.Proofs.Storage.Realms
import ManifestRegistry.Proofs.Storage.Refusals
import ManifestRegistry.Proofs.Storage.Rendering
import ManifestRegistry.Proofs.Storage.Replacing
import ManifestRegistry.Proofs.Storage.Rows
import ManifestRegistry.Proofs.Storage.Selecting
import ManifestRegistry.Proofs.Storage.TwoWrite
import ManifestRegistry.Proofs.Storage.Uniqueness
import ManifestRegistry.Proofs.Storage.Writes
import ManifestRegistry.Proofs.Text.Decimal
import ManifestRegistry.Proofs.Text.Split
import ManifestRegistry.Proofs.Version.Leading
import ManifestRegistry.Proofs.Version.Precedence
import ManifestRegistry.Proofs.Version.Preorder
import ManifestRegistry.Proofs.Version.Specific
import ManifestRegistry.Proofs.Version.Spelling
import ManifestRegistry.Record.Basic
import ManifestRegistry.Record.Document
import ManifestRegistry.Registry
import ManifestRegistry.Service.Collect
import ManifestRegistry.Service.Edit
import ManifestRegistry.Service.Ownership
import ManifestRegistry.Service.Publish
import ManifestRegistry.Service.Quota
import ManifestRegistry.Service.Submission
import ManifestRegistry.Service.Task
import ManifestRegistry.Shape.Basic
import ManifestRegistry.Shape.Fault
import ManifestRegistry.Shape.Layout
import ManifestRegistry.Storage.Backend
import ManifestRegistry.Storage.Call
import ManifestRegistry.Storage.Contended
import ManifestRegistry.Storage.Error
import ManifestRegistry.Storage.Memory
import ManifestRegistry.Storage.Pace
import ManifestRegistry.Storage.Rows
import ManifestRegistry.Storage.Scripted
import ManifestRegistry.Storage.Series
import ManifestRegistry.Storage.Slow
import ManifestRegistry.Storage.Table
import ManifestRegistry.Storage.TwoWrite
import ManifestRegistry.Text.Alphanumeric
import ManifestRegistry.Text.Blank
import ManifestRegistry.Text.Boundaries
import ManifestRegistry.Text.Decimal
import ManifestRegistry.Text.Direction
import ManifestRegistry.Text.Duration
import ManifestRegistry.Text.Hex
import ManifestRegistry.Text.Joining
import ManifestRegistry.Text.Mark
import ManifestRegistry.Text.Order
import ManifestRegistry.Text.Quoted
import ManifestRegistry.Text.Split
import ManifestRegistry.Text.Unprintable
import ManifestRegistry.Url.Basic
import ManifestRegistry.Url.Domain
import ManifestRegistry.Url.Domain.Images
import ManifestRegistry.Url.Domain.Kept
import ManifestRegistry.Url.Ipv4
import ManifestRegistry.Url.Ipv6
import ManifestRegistry.Url.Punycode
import ManifestRegistry.Uuid
import ManifestRegistry.Version.Basic
import ManifestRegistry.Version.Precedence
import ManifestRegistry.Version.Specific
