import Upkeep.Address
import Upkeep.Boundary
import Upkeep.Bundle
import Upkeep.Channel
import Upkeep.Connection
import Upkeep.Credentials
import Upkeep.Decimal.Binary64
import Upkeep.Decimal.Notation
import Upkeep.Decimal.Places
import Upkeep.Decimal.Reading
import Upkeep.Decimal.Shortest
import Upkeep.Directory
import Upkeep.Encoding.Base64
import Upkeep.Encoding.Detection
import Upkeep.Encoding.Scheme
import Upkeep.Encoding.Utf16
import Upkeep.Encoding.Utf32
import Upkeep.Encoding.Utf8
import Upkeep.Execution
import Upkeep.Failure
import Upkeep.Fault
import Upkeep.Host
import Upkeep.Items
import Upkeep.Journal
import Upkeep.Json.Display
import Upkeep.Json.Reader
import Upkeep.Json.Shown
import Upkeep.Json.Value
import Upkeep.Json.Writer
import Upkeep.Launch
import Upkeep.Lifecycle
import Upkeep.Log.Calendar
import Upkeep.Log.Colour
import Upkeep.Log.Draft
import Upkeep.Log.Field
import Upkeep.Log.Highlight
import Upkeep.Log.Line
import Upkeep.Log.Record
import Upkeep.Log.Setup
import Upkeep.Log.Template
import Upkeep.Main
import Upkeep.Observation
import Upkeep.Pass
import Upkeep.Placeholder
import Upkeep.Port
import Upkeep.Proofs.Act
import Upkeep.Register
import Upkeep.Rehearsal
import Upkeep.Request
import Upkeep.Resource
import Upkeep.Service
import Upkeep.Session
import Upkeep.Settings
import Upkeep.Shell
import Upkeep.Signature
import Upkeep.Staging
import Upkeep.Store
import Upkeep.Surroundings
import Upkeep.Sweep
import Upkeep.Text.Blank
import Upkeep.Text.Case
import Upkeep.Text.CaseTable
import Upkeep.Text.Digit
import Upkeep.Text.Hex
import Upkeep.Text.Order
import Upkeep.Text.Printable
import Upkeep.Text.Quoted
import Upkeep.Text.Ranges
import Upkeep.Text.Substitution
import Upkeep.Text.Surrogate
import Upkeep.Text.Word
import Upkeep.Tool
import Upkeep.World
import Upkeep.Proofs.Talk
import Upkeep.Proofs.Exchange
import Upkeep.Proofs.Orderly
import Upkeep.Proofs.Phases
import Upkeep.Proofs.Histories
import Upkeep.Proofs.Run
import Upkeep.Proofs.Performing
import Upkeep.Proofs.Cleanup
import Upkeep.Proofs.Upshot
import Upkeep.Proofs.Passes
import Upkeep.Proofs.Table
import Upkeep.Proofs.Deletion
import Upkeep.Proofs.Escape
import Upkeep.Proofs.Published
import Upkeep.Proofs.Brackets
import Upkeep.Proofs.Requested
import Upkeep.Proofs.Veil
import Upkeep.Proofs.Twins
import Upkeep.Proofs.Discretion
import Upkeep.Proofs.Bounds
import Upkeep.Proofs.Frame
import Upkeep.Proofs.Gathering
import Upkeep.Proofs.Chronicle
import Upkeep.Proofs.Creation
import Upkeep.Proofs.Crew
import Upkeep.Proofs.Locks
import Upkeep.Proofs.Filling
import Upkeep.Proofs.Executions
import Upkeep.Proofs.Hosts
import Upkeep.Proofs.Legible
import Upkeep.Proofs.Decoding
import Upkeep.Proofs.Utf8
import Upkeep.Proofs.Commands
import Upkeep.Proofs.Dialling
import Upkeep.Proofs.Turns
import Upkeep.Proofs.Numerals
import Upkeep.Proofs.Ports
import Upkeep.Proofs.KeyMaterial
import Upkeep.Proofs.CommandLines
import Upkeep.Proofs.Painting
import Upkeep.Proofs.Canonical
import Upkeep.Proofs.Shortest
import Upkeep.Proofs.Documents
import Upkeep.Proofs.Environments
import Upkeep.Proofs.Applications
import Upkeep.Proofs.Foreign
import Upkeep.Proofs.UnknownNames
import Upkeep.Proofs.Tallies
import Upkeep.Proofs.Levels
import Upkeep.Proofs.Exits
