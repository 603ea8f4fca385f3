import Guildhall.Calendar.DateTime
import Guildhall.Calendar.Day
import Guildhall.Calendar.Reader
import Guildhall.Calendar.Stamp
import Guildhall.Connection.Address
import Guildhall.Connection.Basic
import Guildhall.Decimal.Base
import Guildhall.Decimal.Binary64
import Guildhall.Decimal.Integer
import Guildhall.Decimal.Misread
import Guildhall.Decimal.Plain
import Guildhall.Decimal.Real
import Guildhall.Decimal.Shortest
import Guildhall.Decimal.Word
import Guildhall.Entity.Basic
import Guildhall.Entity.Serialized
import Guildhall.Form.Checked
import Guildhall.Form.Entity
import Guildhall.Form.Problem
import Guildhall.Form.Scalar
import Guildhall.Form.Schema
import Guildhall.Json.Reader
import Guildhall.Json.Value
import Guildhall.Json.Writer
import Guildhall.Main
import Guildhall.PairKey
import Guildhall.Program.Arguments
import Guildhall.Program.Job
import Guildhall.Program.Log
import Guildhall.Program.Usage
import Guildhall.Proofs.Directs.Change
import Guildhall.Proofs.Directs.Creation
import Guildhall.Proofs.Directs.Departure
import Guildhall.Proofs.Directs.Lockout
import Guildhall.Proofs.Directs.Lookup
import Guildhall.Proofs.Directs.Pairs
import Guildhall.Proofs.Directs.Privacy
import Guildhall.Proofs.Directs.Race
import Guildhall.Proofs.Directs.Search
import Guildhall.Proofs.Messages.Page
import Guildhall.Proofs.Messages.Walk
import Guildhall.Proofs.PairKey
import Guildhall.Proofs.Store.Cascade
import Guildhall.Proofs.Store.Consistency
import Guildhall.Proofs.Store.Constraint
import Guildhall.Proofs.Store.Deletion
import Guildhall.Proofs.Store.Effect
import Guildhall.Proofs.Store.History
import Guildhall.Proofs.Store.Identity
import Guildhall.Proofs.Store.Question
import Guildhall.Proofs.Store.Removal
import Guildhall.Proofs.Store.Rollback
import Guildhall.Proofs.Store.Run
import Guildhall.Proofs.Store.Word
import Guildhall.Settings.Basic
import Guildhall.Settings.Reader
import Guildhall.Settings.Source
import Guildhall.Snowflake.Basic
import Guildhall.Snowflake.Generator
import Guildhall.Snowflake.Timestamp
import Guildhall.Store.Answer
import Guildhall.Store.Bans
import Guildhall.Store.Catalog.Baseline
import Guildhall.Store.Catalog.Basic
import Guildhall.Store.Catalog.Declared
import Guildhall.Store.Cell
import Guildhall.Store.Channels
import Guildhall.Store.Classification
import Guildhall.Store.Command
import Guildhall.Store.Database
import Guildhall.Store.Demo
import Guildhall.Store.Dialect
import Guildhall.Store.Directs
import Guildhall.Store.Dump
import Guildhall.Store.Error
import Guildhall.Store.Failure
import Guildhall.Store.Finder
import Guildhall.Store.Guilds
import Guildhall.Store.Invites
import Guildhall.Store.Label
import Guildhall.Store.Members
import Guildhall.Store.Messages
import Guildhall.Store.Query
import Guildhall.Store.Raw
import Guildhall.Store.Reactions
import Guildhall.Store.ReadStates
import Guildhall.Store.Roles
import Guildhall.Store.Row
import Guildhall.Store.Rule
import Guildhall.Store.Snapshot
import Guildhall.Store.Statement
import Guildhall.Store.Storage
import Guildhall.Store.Stored
import Guildhall.Store.Table
import Guildhall.Store.Users
import Guildhall.Store.VoiceStates
import Guildhall.Text.Blank
import Guildhall.Text.Capital
import Guildhall.Text.Digit
import Guildhall.Text.Hex
import Guildhall.Text.Parts
import Guildhall.Text.Pattern
import Guildhall.Text.Percent
import Guildhall.Text.Printable
import Guildhall.Text.Quoted
import Guildhall.Text.Search
import Guildhall.Text.Utf8
import Guildhall.Yaml.Construct
import Guildhall.Yaml.Event
import Guildhall.Yaml.Fault
import Guildhall.Yaml.Kind
import Guildhall.Yaml.Lexeme
import Guildhall.Yaml.Node
import Guildhall.Yaml.Number
import Guildhall.Yaml.Scalar
import Guildhall.Yaml.Scan
import Guildhall.Yaml.Text
import Guildhall.Yaml.Token
import Guildhall.Yaml.Value
import Guildhall.Proofs.Snowflake.Issue
import Guildhall.Proofs.Invites.Expiry
import Guildhall.Proofs.Secrecy.Censored
import Guildhall.Proofs.Secrecy.Answer
import Guildhall.Proofs.Secrecy.Run
import Guildhall.Proofs.Store.Guard
import Guildhall.Proofs.Store.Readable
import Guildhall.Proofs.Store.Verdict
import Guildhall.Proofs.Store.Absence
import Guildhall.Proofs.Store.Taxonomy
import Guildhall.Proofs.Store.Insertion
import Guildhall.Proofs.Store.Creation
import Guildhall.Proofs.Store.Entry
import Guildhall.Proofs.Directs.Refusal
import Guildhall.Proofs.Store.Outcome
import Guildhall.Proofs.Store.Retrieval
import Guildhall.Proofs.Store.Frame
import Guildhall.Proofs.ReadStates.Change
import Guildhall.Proofs.ReadStates.History
import Guildhall.Proofs.Text.Strip
import Guildhall.Proofs.Decimal.Numeral
import Guildhall.Proofs.Calendar.Day
import Guildhall.Proofs.Calendar.Valid
import Guildhall.Proofs.Calendar.Written
import Guildhall.Proofs.Form.Scalar
import Guildhall.Proofs.Form.Field
import Guildhall.Proofs.Form.NormalForm
import Guildhall.Proofs.Store.Occurrence
import Guildhall.Proofs.Store.Loss
import Guildhall.Proofs.Store.Touch
import Guildhall.Proofs.Store.Register
import Guildhall.Proofs.Store.Keyed
import Guildhall.Proofs.Store.Latest
import Guildhall.Proofs.Store.Batch
import Guildhall.Proofs.Invites.Redemption
import Guildhall.Proofs.Members.Views
import Guildhall.Proofs.Directs.Views
import Guildhall.Proofs.Store.Permuted
import Guildhall.Proofs.Store.Listing
import Guildhall.Proofs.Store.Repetition
import Guildhall.Proofs.Store.Retry
import Guildhall.Proofs.Store.Provenance
import Guildhall.Proofs.Store.Schema
import Guildhall.Proofs.Snowflake.Layout
import Guildhall.Proofs.Reactions.Counts
import Guildhall.Proofs.Reactions.Stability
import Guildhall.Proofs.Text.Search
import Guildhall.Proofs.Messages.Search
import Guildhall.Proofs.Calendar.Instant
import Guildhall.Proofs.Decimal.Rounding
import Guildhall.Proofs.Snowflake.Timestamp
import Guildhall.Proofs.Text.Capital
import Guildhall.Proofs.Store.Classification
import Guildhall.Proofs.Store.Assembly
import Guildhall.Proofs.Demo.Script
import Guildhall.Proofs.Demo.Community
import Guildhall.Proofs.Settings.Masking
import Guildhall.Proofs.Settings.Outcome
import Guildhall.Proofs.Program.Exit
