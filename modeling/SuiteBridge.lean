import SuiteBridge.Arguments
import SuiteBridge.Binary64.Basic
import SuiteBridge.Binary64.Shortest
import SuiteBridge.Calendar.DateTime
import SuiteBridge.Calendar.Timestamp
import SuiteBridge.Capability.Basic
import SuiteBridge.Capability.Parameter
import SuiteBridge.Capability.Plan
import SuiteBridge.Capability.Registry
import SuiteBridge.Category.Basic
import SuiteBridge.Category.Selection
import SuiteBridge.CommandLine.Command
import SuiteBridge.CommandLine.Launch
import SuiteBridge.CommandLine.Setting
import SuiteBridge.Entity.Channel
import SuiteBridge.Entity.Post
import SuiteBridge.Entity.Recency
import SuiteBridge.Fault
import SuiteBridge.Host.Lines
import SuiteBridge.Host.Message
import SuiteBridge.Host.Service
import SuiteBridge.Host.Session
import SuiteBridge.Json.Basic
import SuiteBridge.Json.Cause
import SuiteBridge.Json.Decoder
import SuiteBridge.Json.Outline
import SuiteBridge.Json.Printer
import SuiteBridge.Json.Reader
import SuiteBridge.Json.Scanner
import SuiteBridge.Log
import SuiteBridge.Main
import SuiteBridge.Remote.Envelope
import SuiteBridge.Remote.Invocation
import SuiteBridge.Remote.Request
import SuiteBridge.Settings
import SuiteBridge.Span
import SuiteBridge.Suite.Basic
import SuiteBridge.Suite.Calendar
import SuiteBridge.Suite.Catalogue
import SuiteBridge.Suite.Drive
import SuiteBridge.Suite.Messenger
import SuiteBridge.Suite.Project
import SuiteBridge.Suite.Wiki
import SuiteBridge.Text.Base64
import SuiteBridge.Text.Blank
import SuiteBridge.Text.CombiningClass
import SuiteBridge.Text.Composite
import SuiteBridge.Text.Letters
import SuiteBridge.Text.Mark
import SuiteBridge.Text.NormalForm
import SuiteBridge.Text.Numeral
import SuiteBridge.Text.Percent
import SuiteBridge.Text.Printable
import SuiteBridge.Text.Quoted
import SuiteBridge.Text.Ranges
import SuiteBridge.Text.Separated
import SuiteBridge.Text.Utf8
import SuiteBridge.Url.Address
import SuiteBridge.Url.Basic
import SuiteBridge.Url.Domain
import SuiteBridge.Url.Folding
import SuiteBridge.Url.Folding.Characters
import SuiteBridge.Url.Folding.Ideographs
import SuiteBridge.Url.Folding.Runs
import SuiteBridge.Url.Folding.Sequences
import SuiteBridge.Url.Label.Basic
import SuiteBridge.Url.Label.Direction
import SuiteBridge.Url.Label.Joining
import SuiteBridge.Url.Parser
import SuiteBridge.Url.Problem
import SuiteBridge.Url.Punycode
import SuiteBridge.Proofs.Session.Run
import SuiteBridge.Proofs.Session.Ledger
import SuiteBridge.Proofs.Call.Writing
import SuiteBridge.Proofs.Call.Judgement
import SuiteBridge.Proofs.Call.Planning
import SuiteBridge.Proofs.Call.Endings
import SuiteBridge.Proofs.Json.Written
import SuiteBridge.Proofs.Json.Walk
import SuiteBridge.Proofs.Json.Filling
import SuiteBridge.Proofs.Json.Coherence
import SuiteBridge.Proofs.Remote.Envelope
import SuiteBridge.Proofs.Call.Refusal
import SuiteBridge.Proofs.Json.Distinct
import SuiteBridge.Proofs.Session.Register
import SuiteBridge.Proofs.Session.Closing
import SuiteBridge.Proofs.Session.Cancellation
import SuiteBridge.Proofs.Json.Schema
import SuiteBridge.Proofs.Call.Schema
import SuiteBridge.Proofs.Text.Percent
import SuiteBridge.Proofs.Url.Path
import SuiteBridge.Proofs.Call.Addressing
import SuiteBridge.Proofs.Call.Declared
import SuiteBridge.Proofs.Call.Required
import SuiteBridge.Proofs.Json.Reread
import SuiteBridge.Proofs.Session.Delivery
import SuiteBridge.Proofs.Registry.Admission
import SuiteBridge.Proofs.Session.Availability
import SuiteBridge.Proofs.Url.Below
import SuiteBridge.Proofs.Call.Confinement
import SuiteBridge.Proofs.Session.Answer
import SuiteBridge.Proofs.Call.Blankness
import SuiteBridge.Proofs.Session.Stream
import SuiteBridge.Proofs.Session.Beside
import SuiteBridge.Proofs.Session.Malformed
import SuiteBridge.Proofs.Text.Numeral
import SuiteBridge.Proofs.Calendar.Months
import SuiteBridge.Proofs.Calendar.Timestamp
import SuiteBridge.Proofs.Entity.Recency
import SuiteBridge.Proofs.Entity.Encoding
import SuiteBridge.Proofs.Entity.Retention
import SuiteBridge.Proofs.Call.Listing
import SuiteBridge.Proofs.Remote.Shapes
import SuiteBridge.Proofs.Text.Utf8
import SuiteBridge.Proofs.Url.Endpoint
import SuiteBridge.Proofs.Remote.Query
import SuiteBridge.Proofs.Call.Update
import SuiteBridge.Proofs.Call.Task
import SuiteBridge.Proofs.Text.Separated
import SuiteBridge.Proofs.Text.Letters
import SuiteBridge.Proofs.Settings.Selection
import SuiteBridge.Proofs.Settings.Span
import SuiteBridge.Proofs.Call.Spelling
import SuiteBridge.Proofs.Call.Entries
