import Ambient.Baggage
import Ambient.Carrier
import Ambient.Cell
import Ambient.Config
import Ambient.Context
import Ambient.Correlations
import Ambient.Correlations.Edit
import Ambient.Datum
import Ambient.Decimal.Binary64
import Ambient.Decimal.Layout
import Ambient.Decimal.Numeral
import Ambient.Decimal.Read
import Ambient.Decimal.Shortest
import Ambient.Error
import Ambient.Guard
import Ambient.Header
import Ambient.Json.Number
import Ambient.Json.Quoted
import Ambient.Json.Reader
import Ambient.Json.Record
import Ambient.Json.Tree
import Ambient.Json.Value
import Ambient.Logging
import Ambient.Scenario.Control
import Ambient.Scenario.Entry
import Ambient.Scenario.Operation
import Ambient.Scenario.Play
import Ambient.Scenario.Release
import Ambient.Scenario.State
import Ambient.Scenario.Step
import Ambient.Shell
import Ambient.Site
import Ambient.SpanContext
import Ambient.Strategy
import Ambient.Text.Alphanumeric
import Ambient.Text.Blank
import Ambient.Text.Hex
import Ambient.Text.Letter
import Ambient.Text.Literal
import Ambient.Text.Percent
import Ambient.Text.Printable
import Ambient.Text.Segment
import Ambient.Text.Utf8
import Ambient.Workbook
import Ambient.Proofs.Holding
import Ambient.Proofs.Job
import Ambient.Proofs.Process
import Ambient.Proofs.Isolation
import Ambient.Proofs.Cancellation
import Ambient.Proofs.Inheritance
import Ambient.Proofs.Activation
import Ambient.Proofs.Naming
import Ambient.Proofs.Coded
import Ambient.Proofs.RoundTrip
import Ambient.Proofs.Detachment
import Ambient.Proofs.Machine
import Ambient.Proofs.Outline
import Ambient.Proofs.Opened
import Ambient.Proofs.Interchange
import Ambient.Proofs.Activity
import Ambient.Proofs.Shelter
import Ambient.Proofs.Aftermath
import Ambient.Proofs.Apart
import Ambient.Proofs.Commons
import Ambient.Proofs.Reach
import Ambient.Proofs.Conduct
import Ambient.Proofs.Coverage
import Ambient.Proofs.Enacting
import Ambient.Proofs.Holdings
import Ambient.Proofs.Custody
import Ambient.Proofs.Layers
import Ambient.Proofs.Operating
import Ambient.Proofs.Playing
import Ambient.Proofs.Separation
import Ambient.Proofs.Stray
import Ambient.Proofs.Bystander
import Ambient.Proofs.Relay
import Ambient.Proofs.Repetition
import Ambient.Proofs.Extension
import Ambient.Proofs.Identity
import Ambient.Proofs.Reception
import Ambient.Proofs.Combined
import Ambient.Proofs.Deeds
import Ambient.Proofs.Unwinding
import Ambient.Proofs.Renewal
import Ambient.Proofs.Handover
import Ambient.Proofs.Suspension
import Ambient.Proofs.Cargo
import Ambient.Proofs.Chronicle
import Ambient.Proofs.Sameness
import Ambient.Proofs.Sweeping
import Ambient.Proofs.Escaped
import Ambient.Proofs.Tidiness
import Ambient.Proofs.Confinement
import Ambient.Proofs.Rereading
import Ambient.Proofs.Settings
import Ambient.Proofs.Hexadecimal
import Ambient.Proofs.Numerals
import Ambient.Proofs.Quotation
import Ambient.Proofs.Document
import Ambient.Proofs.Records
import Ambient.Proofs.Piles
import Ambient.Proofs.Entries
