import InstructionStore.Account
import InstructionStore.Config.Basic
import InstructionStore.Config.Fault
import InstructionStore.Config.Loading
import InstructionStore.Config.Reading
import InstructionStore.Database.Cell
import InstructionStore.Database.Connection
import InstructionStore.Database.Contents
import InstructionStore.Database.Editing
import InstructionStore.Database.Opening
import InstructionStore.Database.Rows
import InstructionStore.Database.Table
import InstructionStore.Digest
import InstructionStore.Document
import InstructionStore.Failure
import InstructionStore.Files
import InstructionStore.History.Chain
import InstructionStore.History.Commit
import InstructionStore.Identifier
import InstructionStore.Instruction.Basic
import InstructionStore.Instruction.Encoding
import InstructionStore.Instruction.Grammar
import InstructionStore.Instruction.Path
import InstructionStore.Instruction.Rejection
import InstructionStore.Instruction.Text
import InstructionStore.InvalidInput
import InstructionStore.Json.Basic
import InstructionStore.Json.Fault
import InstructionStore.Json.Fields
import InstructionStore.Json.Layout
import InstructionStore.Json.Printer
import InstructionStore.Json.Reader
import InstructionStore.Json.Record
import InstructionStore.Number.Binary64
import InstructionStore.Number.Numeral
import InstructionStore.Number.Shortest
import InstructionStore.OpaqueId
import InstructionStore.Proofs.Database.Apart
import InstructionStore.Proofs.Database.Calm
import InstructionStore.Proofs.Database.Cell
import InstructionStore.Proofs.Database.Connection
import InstructionStore.Proofs.Database.Opening
import InstructionStore.Proofs.Database.Table
import InstructionStore.Proofs.Grammar.Derivation
import InstructionStore.Proofs.Grammar.Encoding
import InstructionStore.Proofs.Grammar.Levels
import InstructionStore.Proofs.Grammar.Reading
import InstructionStore.Proofs.Grammar.Rejections
import InstructionStore.Proofs.Grammar.Rereading
import InstructionStore.Proofs.Grammar.Searches
import InstructionStore.Proofs.Grammar.Storing
import InstructionStore.Proofs.History.Appending
import InstructionStore.Proofs.History.Chains
import InstructionStore.Proofs.History.Naming
import InstructionStore.Proofs.History.Refinement
import InstructionStore.Proofs.History.Tables
import InstructionStore.Proofs.History.Walking
import InstructionStore.Proofs.Input.Identifiers
import InstructionStore.Proofs.Input.Signups
import InstructionStore.Proofs.Input.Tags
import InstructionStore.Proofs.Json.Fields
import InstructionStore.Proofs.Json.Floats
import InstructionStore.Proofs.Json.Layouts
import InstructionStore.Proofs.Json.Lists
import InstructionStore.Proofs.Json.Nesting
import InstructionStore.Proofs.Json.Numbers
import InstructionStore.Proofs.Json.Rereading
import InstructionStore.Proofs.Json.Resemblance
import InstructionStore.Proofs.Json.Strings
import InstructionStore.Proofs.Lists
import InstructionStore.Proofs.Number.Rounding
import InstructionStore.Proofs.Number.Shortest
import InstructionStore.Proofs.Outcome
import InstructionStore.Proofs.Store.Agreement
import InstructionStore.Proofs.Store.Annals
import InstructionStore.Proofs.Store.Archive
import InstructionStore.Proofs.Store.Backing
import InstructionStore.Proofs.Store.Changes
import InstructionStore.Proofs.Store.Chronicle
import InstructionStore.Proofs.Store.Conservation
import InstructionStore.Proofs.Store.Entries
import InstructionStore.Proofs.Store.Events
import InstructionStore.Proofs.Store.Failing
import InstructionStore.Proofs.Store.Identity
import InstructionStore.Proofs.Store.Integrity
import InstructionStore.Proofs.Store.Interleaving
import InstructionStore.Proofs.Store.Isolation
import InstructionStore.Proofs.Store.Ledger
import InstructionStore.Proofs.Store.Lookups
import InstructionStore.Proofs.Store.Noninterference
import InstructionStore.Proofs.Store.Operations
import InstructionStore.Proofs.Store.Overlap
import InstructionStore.Proofs.Store.Reachability
import InstructionStore.Proofs.Store.Recording
import InstructionStore.Proofs.Store.Records
import InstructionStore.Proofs.Store.SaveOutcome
import InstructionStore.Proofs.Store.SaveThenFind
import InstructionStore.Proofs.Store.Saving
import InstructionStore.Proofs.Store.Statements
import InstructionStore.Proofs.Store.Surroundings
import InstructionStore.Proofs.Store.Uninterrupted
import InstructionStore.Proofs.Store.World
import InstructionStore.Proofs.Text.Bytes
import InstructionStore.Proofs.Text.Numeral
import InstructionStore.Proofs.Time.Calendar
import InstructionStore.Proofs.Time.Timestamp
import InstructionStore.Store.Accounts
import InstructionStore.Store.Documents
import InstructionStore.Store.Opening
import InstructionStore.Store.Saving
import InstructionStore.Text.Numeral
import InstructionStore.Text.Quoted
import InstructionStore.Time.Calendar
import InstructionStore.Time.Timestamp
import InstructionStore.Unicode.Classes
import InstructionStore.Unicode.Ranges
import InstructionStore.Unicode.Sequences
import InstructionStore.Web.Address
import InstructionStore.Web.Composition
import InstructionStore.Web.Direction
import InstructionStore.Web.Domain
import InstructionStore.Web.IpAddress
import InstructionStore.Web.Joining
import InstructionStore.Web.Mapping
import InstructionStore.Web.Punycode
import InstructionStore.Wire
import InstructionStore.Yaml.Cursor
import InstructionStore.Yaml.Event
import InstructionStore.Yaml.Meaning
import InstructionStore.Yaml.Name
import InstructionStore.Yaml.Outline
import InstructionStore.Yaml.Scan
import InstructionStore.Yaml.Text
import InstructionStore.Yaml.Token
import InstructionStore.Proofs.Grammar.WrittenForms
import InstructionStore.Proofs.Json.Columns
import InstructionStore.Proofs.Wire
import InstructionStore.Proofs.Json.Refusal
import InstructionStore.Proofs.Store.RawRequests
import InstructionStore.Proofs.Database.Gate
import InstructionStore.Proofs.Store.Gate
import InstructionStore.Proofs.Store.Checking
import InstructionStore.Proofs.History.Ancestry
import InstructionStore.Proofs.History.Keys
import InstructionStore.Proofs.Database.Outline
import InstructionStore.Proofs.Database.Stages
import InstructionStore.Proofs.Store.Refilling
import InstructionStore.Proofs.Store.Places
import InstructionStore.Proofs.Store.Openings
import InstructionStore.Proofs.Store.Moments
import InstructionStore.Proofs.Store.Keeping
import InstructionStore.Proofs.Store.Reopening
import InstructionStore.Proofs.Grammar.Stability
import InstructionStore.Proofs.Grammar.Paths
import InstructionStore.Proofs.Grammar.Locality
import InstructionStore.Proofs.Store.Deleting
