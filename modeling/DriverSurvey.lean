import DriverSurvey.Program
import DriverSurvey.Version
import DriverSurvey.Fault
import DriverSurvey.Path
import DriverSurvey.Report
import DriverSurvey.Text.Digit
import DriverSurvey.Text.Blank
import DriverSurvey.Text.Utf8
import DriverSurvey.Graphics.Call
import DriverSurvey.Graphics.Token
import DriverSurvey.Graphics.Context
import DriverSurvey.Graphics.Extension
import DriverSurvey.Graphics.Query
import DriverSurvey.Vulkan
import DriverSurvey.Graphics.Snapshot
import DriverSurvey.Native.Entry
import DriverSurvey.Native.Binding
import DriverSurvey.Machine.Script
import DriverSurvey.Machine.Native
import DriverSurvey.Session
import DriverSurvey.Shared
import DriverSurvey.Toml.Value
import DriverSurvey.Toml.Lexical
import DriverSurvey.Toml.Document
import DriverSurvey.Settings.Basic
import DriverSurvey.Settings.Document
import DriverSurvey.Json.Numeral
import DriverSurvey.Json.Token
import DriverSurvey.Json.Tree
import DriverSurvey.Json.Field
import DriverSurvey.Json.Report
import DriverSurvey.CommandLine.Arguments
import DriverSurvey.CommandLine.Report
import DriverSurvey.Main
import DriverSurvey.Proofs.Trace
import DriverSurvey.Proofs.Asking
import DriverSurvey.Proofs.Lifecycle
import DriverSurvey.Proofs.Acquisition
import DriverSurvey.Proofs.Managed
import DriverSurvey.Proofs.Resources
import DriverSurvey.Proofs.Coherence
import DriverSurvey.Proofs.Outcome
import DriverSurvey.Proofs.Errors
import DriverSurvey.Proofs.Order
import DriverSurvey.Proofs.Routing
import DriverSurvey.Proofs.Selection
import DriverSurvey.Proofs.Refinement
import DriverSurvey.Proofs.Availability
import DriverSurvey.Proofs.Guard
import DriverSurvey.Proofs.Interleaving
import DriverSurvey.Proofs.Loading
import DriverSurvey.Proofs.Rounds
import DriverSurvey.Proofs.Absence
import DriverSurvey.Proofs.Consistency
import DriverSurvey.Proofs.Scanning
import DriverSurvey.Proofs.Lexing
import DriverSurvey.Proofs.RoundTrip
import DriverSurvey.Proofs.Forms
import DriverSurvey.Proofs.Blame
import DriverSurvey.Proofs.Counters
import DriverSurvey.Proofs.Completion
import DriverSurvey.Proofs.Exit
import DriverSurvey.Proofs.Whereabouts
import DriverSurvey.Proofs.Leniency
import DriverSurvey.Proofs.Words
import DriverSurvey.Proofs.Encoding
import DriverSurvey.Proofs.Distinct
import DriverSurvey.Proofs.Listing
import DriverSurvey.Proofs.Candidates
import DriverSurvey.Proofs.Precedence
