import PulseAnalyzer.Calibration
import PulseAnalyzer.Text.Ascii
import PulseAnalyzer.Text.Utf8
import PulseAnalyzer.Time.Timestamp
import PulseAnalyzer.Wire.Argument
import PulseAnalyzer.Wire.Response
import PulseAnalyzer.Device.Descriptor
import PulseAnalyzer.Record
import PulseAnalyzer.Device.Interface
import PulseAnalyzer.Number.Reading
import PulseAnalyzer.Program.Basic
import PulseAnalyzer.Run.Plan
import PulseAnalyzer.Device.Command
import PulseAnalyzer.Device.Session
import PulseAnalyzer.Simulator.Injection
import PulseAnalyzer.Simulator.Link
import PulseAnalyzer.Simulator.Noise
import PulseAnalyzer.Simulator.Acquisition
import PulseAnalyzer.Run.Monitor
import PulseAnalyzer.Serial.PortLink
import PulseAnalyzer.Simulator.Bench
import PulseAnalyzer.Device.Report
import PulseAnalyzer.Text.Json.Reader
import PulseAnalyzer.Settings.Setting
import PulseAnalyzer.Settings.Quoted
import PulseAnalyzer.Settings.Toml.Moment
import PulseAnalyzer.Settings.Toml.Scalar
import PulseAnalyzer.Settings.Toml.Wrapped
import PulseAnalyzer.Settings.Toml.Document
import PulseAnalyzer.Settings.Environment
import PulseAnalyzer.Settings.Reading
import PulseAnalyzer.Settings.Configuration
import PulseAnalyzer.CommandLine.Word
import PulseAnalyzer.CommandLine.Scan
import PulseAnalyzer.CommandLine.Invocation
import PulseAnalyzer.CommandLine.Operation
import PulseAnalyzer.CommandLine.Rehearsal
import PulseAnalyzer.Main
import PulseAnalyzer.Proofs.Program.History
import PulseAnalyzer.Proofs.Run.Event
import PulseAnalyzer.Proofs.Run.Steady
import PulseAnalyzer.Proofs.Run.Measured
import PulseAnalyzer.Proofs.Run.Course
import PulseAnalyzer.Proofs.Run.StopDiscipline
import PulseAnalyzer.Proofs.Run.FirstFault
import PulseAnalyzer.Proofs.Program.Cut
import PulseAnalyzer.Proofs.Run.ReadOut
import PulseAnalyzer.Proofs.Run.Cancellation
import PulseAnalyzer.Proofs.Run.SnapshotTurn
import PulseAnalyzer.Proofs.Run.HandedOut
import PulseAnalyzer.Proofs.Program.Recital
import PulseAnalyzer.Proofs.Run.CallLanguage
import PulseAnalyzer.Proofs.Wire.RoundTrip
import PulseAnalyzer.Proofs.Device.Conduct
import PulseAnalyzer.Proofs.Device.Handles
import PulseAnalyzer.Proofs.Device.Framing
import PulseAnalyzer.Proofs.Wire.ResponseFormat
import PulseAnalyzer.Proofs.Device.Transaction
import PulseAnalyzer.Proofs.Simulator.Hosting
import PulseAnalyzer.Proofs.Simulator.Exchange
import PulseAnalyzer.Proofs.Simulator.Peripherals
import PulseAnalyzer.Proofs.Simulator.LedPulser
import PulseAnalyzer.Proofs.Wire.ResponseSize
import PulseAnalyzer.Proofs.Simulator.RawCommand
import PulseAnalyzer.Proofs.Simulator.Untouched
import PulseAnalyzer.Proofs.Session.RangeCheck
import PulseAnalyzer.Proofs.Time.Grid
import PulseAnalyzer.Proofs.Program.Clock
import PulseAnalyzer.Proofs.Simulator.Timekeeping
import PulseAnalyzer.Proofs.Run.Beats
import PulseAnalyzer.Proofs.Run.PollTimes
import PulseAnalyzer.Proofs.Run.SnapshotCycle
import PulseAnalyzer.Proofs.Run.SnapshotTimes
import PulseAnalyzer.Proofs.Run.Timing
import PulseAnalyzer.Proofs.Run.Rounds
import PulseAnalyzer.Proofs.Simulator.Readings
import PulseAnalyzer.Proofs.Run.MonitorSchedule
import PulseAnalyzer.Proofs.Run.MonitorLog
import PulseAnalyzer.Proofs.Run.MonitorVisits
import PulseAnalyzer.Proofs.Run.MonitorCycles
import PulseAnalyzer.Proofs.Simulator.HandleAccount
import PulseAnalyzer.Proofs.Simulator.Delivery
import PulseAnalyzer.Proofs.Simulator.ValueStore
import PulseAnalyzer.Proofs.Simulator.ChannelsApart
import PulseAnalyzer.Proofs.Wire.ErrorDetection
import PulseAnalyzer.Proofs.Session.ValueWriting
import PulseAnalyzer.Proofs.Number.DoubleValue
import PulseAnalyzer.Proofs.Number.NearestDouble
import PulseAnalyzer.Proofs.Number.UnpackedArithmetic
import PulseAnalyzer.Proofs.Number.Arithmetic
import PulseAnalyzer.Proofs.Number.WholeNumbers
import PulseAnalyzer.Proofs.Session.ShownWords
import PulseAnalyzer.Proofs.Simulator.LedToggle
import PulseAnalyzer.Proofs.Session.SetpointReadback
import PulseAnalyzer.Proofs.Number.Numerals
import PulseAnalyzer.Proofs.Simulator.FailureCounts
import PulseAnalyzer.Proofs.Text.Trimming
import PulseAnalyzer.Proofs.Wire.ArgumentText
import PulseAnalyzer.Proofs.Device.Descriptors
import PulseAnalyzer.Proofs.Session.Opening
import PulseAnalyzer.Proofs.Serial.PortAccount
import PulseAnalyzer.Proofs.Serial.PortQueues
import PulseAnalyzer.Proofs.Simulator.RunTurns
import PulseAnalyzer.Proofs.Simulator.RunLifecycle
import PulseAnalyzer.Proofs.Number.Comparison
import PulseAnalyzer.Proofs.Settings.Validation
import PulseAnalyzer.Proofs.Device.DescriptorLayout
import PulseAnalyzer.Proofs.Run.PlanBuilding
import PulseAnalyzer.Proofs.Simulator.Attempts
import PulseAnalyzer.Proofs.Simulator.Histograms
import PulseAnalyzer.Proofs.Text.JsonTokens
import PulseAnalyzer.Proofs.Text.FlatJson
import PulseAnalyzer.Proofs.Number.DecimalText
import PulseAnalyzer.Proofs.Number.ShortestDecimal
import PulseAnalyzer.Proofs.Time.Calendar
import PulseAnalyzer.Proofs.Time.TimestampText
import PulseAnalyzer.Proofs.Text.RecordLine
