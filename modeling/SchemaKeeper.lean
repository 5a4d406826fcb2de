import SchemaKeeper.Admission
import SchemaKeeper.Command.Arguments
import SchemaKeeper.Command.Run
import SchemaKeeper.Command.Tables
import SchemaKeeper.Compatibility
import SchemaKeeper.Connection
import SchemaKeeper.Connection.Codec
import SchemaKeeper.Convergence
import SchemaKeeper.Double
import SchemaKeeper.Duration
import SchemaKeeper.Files
import SchemaKeeper.Gateway
import SchemaKeeper.Gateway.Cluster
import SchemaKeeper.Gateway.Memory
import SchemaKeeper.Gateway.Wire
import SchemaKeeper.Json
import SchemaKeeper.Json.Codec
import SchemaKeeper.Json.Content
import SchemaKeeper.Json.Printer
import SchemaKeeper.Json.Reader
import SchemaKeeper.Json.Reading
import SchemaKeeper.Json.Scalar
import SchemaKeeper.Machine
import SchemaKeeper.Main
import SchemaKeeper.Model
import SchemaKeeper.Model.Shape
import SchemaKeeper.Object
import SchemaKeeper.Object.Codec
import SchemaKeeper.Reconciliation
import SchemaKeeper.Reconciliation.Codec
import SchemaKeeper.Rounds
import SchemaKeeper.Settings
import SchemaKeeper.Settings.Codec
import SchemaKeeper.Settings.Environment
import SchemaKeeper.Settings.Loading
import SchemaKeeper.Status
import SchemaKeeper.Status.Codec
import SchemaKeeper.Store
import SchemaKeeper.Store.Codec
import SchemaKeeper.Store.File
import SchemaKeeper.Table
import SchemaKeeper.Text.Assigned
import SchemaKeeper.Text.Base64
import SchemaKeeper.Text.Blank
import SchemaKeeper.Text.Composition
import SchemaKeeper.Text.Direction
import SchemaKeeper.Text.Format
import SchemaKeeper.Text.Grid
import SchemaKeeper.Text.Joining
import SchemaKeeper.Text.Mark
import SchemaKeeper.Text.Pictograph
import SchemaKeeper.Text.Printable
import SchemaKeeper.Text.Quoted
import SchemaKeeper.Text.Ranges
import SchemaKeeper.Text.Utf8
import SchemaKeeper.Text.Width
import SchemaKeeper.Toml.Document
import SchemaKeeper.Toml.Scalar
import SchemaKeeper.Transport
import SchemaKeeper.Transport.Message
import SchemaKeeper.Url
import SchemaKeeper.Url.Host
import SchemaKeeper.Url.Label
import SchemaKeeper.Url.Percent
import SchemaKeeper.Url.Punycode
import SchemaKeeper.Proofs.Compatibility
import SchemaKeeper.Proofs.Program
import SchemaKeeper.Proofs.Cluster
import SchemaKeeper.Proofs.Retention
import SchemaKeeper.Proofs.Admission
import SchemaKeeper.Proofs.Endpoint
import SchemaKeeper.Proofs.Double
import SchemaKeeper.Proofs.Json.Document
import SchemaKeeper.Proofs.Json.Number
import SchemaKeeper.Proofs.Json.Reading
import SchemaKeeper.Proofs.Json.Equality
import SchemaKeeper.Proofs.Json.Scalar
import SchemaKeeper.Proofs.Json.Layout
import SchemaKeeper.Proofs.Json.RoundTrip
import SchemaKeeper.Proofs.Json.Members
import SchemaKeeper.Proofs.Json.Codec
import SchemaKeeper.Proofs.Text.Utf8
import SchemaKeeper.Proofs.Counts
import SchemaKeeper.Proofs.Model
import SchemaKeeper.Proofs.Shape
import SchemaKeeper.Proofs.Ceiling
import SchemaKeeper.Proofs.Steps
import SchemaKeeper.Proofs.Rest
import SchemaKeeper.Proofs.Creation
import SchemaKeeper.Proofs.Matching
import SchemaKeeper.Proofs.Place
import SchemaKeeper.Proofs.Reconciliation
import SchemaKeeper.Proofs.Transcript
import SchemaKeeper.Proofs.Records
import SchemaKeeper.Proofs.Independence
import SchemaKeeper.Proofs.Interleaving
import SchemaKeeper.Proofs.Fixpoint
import SchemaKeeper.Proofs.Requests
import SchemaKeeper.Proofs.Deletion
import SchemaKeeper.Proofs.Markers
import SchemaKeeper.Proofs.CleanUp
import SchemaKeeper.Proofs.Contacts
import SchemaKeeper.Proofs.StandIn
import SchemaKeeper.Proofs.Addresses
import SchemaKeeper.Proofs.Verdicts
import SchemaKeeper.Proofs.Statuses
import SchemaKeeper.Proofs.StateFile
import SchemaKeeper.Proofs.Updates
import SchemaKeeper.Proofs.Secrecy
import SchemaKeeper.Proofs.Admissible
import SchemaKeeper.Proofs.Defaulting
import SchemaKeeper.Proofs.TypedMappings
import SchemaKeeper.Proofs.Spelling
import SchemaKeeper.Proofs.Refusals
import SchemaKeeper.Proofs.Validation
import SchemaKeeper.Proofs.Dialects
import SchemaKeeper.Proofs.Url.Authority
import SchemaKeeper.Proofs.Url.Parts
import SchemaKeeper.Proofs.Url.Ipv4
import SchemaKeeper.Proofs.Url.Ipv6
import SchemaKeeper.Proofs.Url.Percent
import SchemaKeeper.Proofs.Credentials
import SchemaKeeper.Proofs.Url.Host
import SchemaKeeper.Proofs.BaseAddress
import SchemaKeeper.Proofs.Machine
