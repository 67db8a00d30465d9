import MeshTrace.Campaign.Order
import MeshTrace.Campaign.Summary
import MeshTrace.Command.Arguments
import MeshTrace.Command.Campaign
import MeshTrace.Command.Outcome
import MeshTrace.Command.Program
import MeshTrace.Command.Run
import MeshTrace.Files.Failure
import MeshTrace.Files.Loading
import MeshTrace.Files.Saving
import MeshTrace.Files.Store
import MeshTrace.Files.Tree
import MeshTrace.Main
import MeshTrace.Node.Delay
import MeshTrace.Node.Ledger
import MeshTrace.Node.Radio
import MeshTrace.Node.Record
import MeshTrace.Node.State
import MeshTrace.Node.Ticks
import MeshTrace.Number.Binary64
import MeshTrace.Number.Fixed
import MeshTrace.Number.Integer
import MeshTrace.Number.Reading
import MeshTrace.Number.Shortest
import MeshTrace.Proofs.Campaign.Enumeration
import MeshTrace.Proofs.Campaign.Order
import MeshTrace.Proofs.Campaign.Reread
import MeshTrace.Proofs.Campaign.Spread
import MeshTrace.Proofs.Classifier.Columns
import MeshTrace.Proofs.Classifier.Devices
import MeshTrace.Proofs.Classifier.Events
import MeshTrace.Proofs.Classifier.LowPower
import MeshTrace.Proofs.Classifier.Simulator
import MeshTrace.Proofs.Files.Outcome
import MeshTrace.Proofs.Files.Reordered
import MeshTrace.Proofs.Firmware.Address
import MeshTrace.Proofs.Firmware.Arrow
import MeshTrace.Proofs.Firmware.Ends
import MeshTrace.Proofs.Firmware.Entry
import MeshTrace.Proofs.Firmware.Marker
import MeshTrace.Proofs.Firmware.Meaning
import MeshTrace.Proofs.Firmware.Printable
import MeshTrace.Proofs.Firmware.Reading
import MeshTrace.Proofs.Ledger.History
import MeshTrace.Proofs.Ledger.Record
import MeshTrace.Proofs.Node.Episodes
import MeshTrace.Proofs.Node.Frame
import MeshTrace.Proofs.Node.Growth
import MeshTrace.Proofs.Node.Jitter
import MeshTrace.Proofs.Number.Bits
import MeshTrace.Proofs.Number.Digits
import MeshTrace.Proofs.Number.Exact
import MeshTrace.Proofs.Number.Figure
import MeshTrace.Proofs.Number.Finite
import MeshTrace.Proofs.Number.Nearest
import MeshTrace.Proofs.Number.Precise
import MeshTrace.Proofs.Number.Quotient
import MeshTrace.Proofs.Number.Squares
import MeshTrace.Proofs.Number.Stable
import MeshTrace.Proofs.Report.Acceptance
import MeshTrace.Proofs.Report.Content
import MeshTrace.Proofs.Report.Grammar
import MeshTrace.Proofs.Report.RoundTrip
import MeshTrace.Proofs.Report.Stable
import MeshTrace.Proofs.Run.Accounts
import MeshTrace.Proofs.Run.DutyCycle
import MeshTrace.Proofs.Run.EnergyWarnings
import MeshTrace.Proofs.Run.Fairness
import MeshTrace.Proofs.Run.Growth
import MeshTrace.Proofs.Run.Isolation
import MeshTrace.Proofs.Run.JoinedMean
import MeshTrace.Proofs.Run.Lines
import MeshTrace.Proofs.Run.Links
import MeshTrace.Proofs.Run.Listing
import MeshTrace.Proofs.Run.LowPower
import MeshTrace.Proofs.Run.Packets
import MeshTrace.Proofs.Run.Rejection
import MeshTrace.Proofs.Run.Roster
import MeshTrace.Proofs.Run.TimeShift
import MeshTrace.Proofs.Stats.Crossing
import MeshTrace.Proofs.Table
import MeshTrace.Proofs.Text.Blank
import MeshTrace.Proofs.Text.Grammar
import MeshTrace.Proofs.Text.Search
import MeshTrace.Proofs.Text.Shape
import MeshTrace.Proofs.Text.Words
import MeshTrace.Proofs.Tracker.Account
import MeshTrace.Proofs.Tracker.Energy
import MeshTrace.Proofs.Tracker.Interleaving
import MeshTrace.Proofs.Tracker.Isolation
import MeshTrace.Proofs.Tracker.JoinedTime
import MeshTrace.Proofs.Tracker.Lifecycle
import MeshTrace.Proofs.Tracker.Links
import MeshTrace.Proofs.Tracker.Packets
import MeshTrace.Proofs.Tracker.Reach
import MeshTrace.Proofs.Tracker.Symmetry
import MeshTrace.Proofs.Tracker.Ticks
import MeshTrace.Proofs.Tracker.Total
import MeshTrace.Proofs.Tracker.Validity
import MeshTrace.Report.Campaign
import MeshTrace.Report.Document
import MeshTrace.Report.Json
import MeshTrace.Report.Reading
import MeshTrace.Report.Shapes
import MeshTrace.Report.Table
import MeshTrace.Report.Writing
import MeshTrace.Run.Analysis
import MeshTrace.Run.Fairness
import MeshTrace.Run.Summary
import MeshTrace.Run.Tracker
import MeshTrace.Scalar
import MeshTrace.Settings.Basic
import MeshTrace.Settings.Reading
import MeshTrace.Stats.Beta
import MeshTrace.Stats.Crossing
import MeshTrace.Stats.Gamma
import MeshTrace.Stats.Moments
import MeshTrace.Stats.Student
import MeshTrace.Table
import MeshTrace.Text.Blank
import MeshTrace.Text.Digit
import MeshTrace.Text.Search
import MeshTrace.Text.Shape
import MeshTrace.Trace.Classifier
import MeshTrace.Trace.Event
import MeshTrace.Trace.Family
import MeshTrace.Trace.Framing
import MeshTrace.Trace.Message
import MeshTrace.Yaml.Cursor
import MeshTrace.Yaml.Node
import MeshTrace.Yaml.Scalar
import MeshTrace.Yaml.Scanner
import MeshTrace.Yaml.Token
