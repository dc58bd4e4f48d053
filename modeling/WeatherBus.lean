import WeatherBus.Bus.Basic
import WeatherBus.Bus.Dispatch
import WeatherBus.Bus.Exchange
import WeatherBus.Bus.Output
import WeatherBus.BusBarometer.Basic
import WeatherBus.BusBarometer.Command
import WeatherBus.BusBarometer.Format
import WeatherBus.BusBarometer.Instrument
import WeatherBus.Checksum
import WeatherBus.Cli.Arguments
import WeatherBus.Cli.Help
import WeatherBus.Cli.Launch
import WeatherBus.Cli.LogFilter
import WeatherBus.Device
import WeatherBus.DigitalBarometer.Basic
import WeatherBus.DigitalBarometer.Command
import WeatherBus.DigitalBarometer.Instrument
import WeatherBus.DigitalBarometer.Variable
import WeatherBus.Emulator.Basic
import WeatherBus.Emulator.Config
import WeatherBus.Emulator.Run
import WeatherBus.Failure
import WeatherBus.Fault
import WeatherBus.Feed
import WeatherBus.Format.Basic
import WeatherBus.Format.Compile
import WeatherBus.Frame.Assembler
import WeatherBus.Frame.Block
import WeatherBus.Frame.Line
import WeatherBus.HumidityProbe.Basic
import WeatherBus.HumidityProbe.Command
import WeatherBus.HumidityProbe.Instrument
import WeatherBus.HumidityProbe.Variable
import WeatherBus.Instrument
import WeatherBus.Keyword
import WeatherBus.LightningDetector.Basic
import WeatherBus.LightningDetector.Command
import WeatherBus.LightningDetector.Instrument
import WeatherBus.Link
import WeatherBus.Main
import WeatherBus.Number.Binary64
import WeatherBus.Number.Decimal
import WeatherBus.Number.Integer
import WeatherBus.Number.Reader
import WeatherBus.Number.Rounding
import WeatherBus.Parameter
import WeatherBus.Recent
import WeatherBus.Request
import WeatherBus.Sample
import WeatherBus.Schedule
import WeatherBus.Terminal.Basic
import WeatherBus.Terminal.Command
import WeatherBus.Terminal.Kind
import WeatherBus.Text.Basic
import WeatherBus.Text.Quoted
import WeatherBus.Text.Utf8
import WeatherBus.Timestamp
import WeatherBus.Unit.Distance
import WeatherBus.Unit.Pressure
import WeatherBus.Unit.Temperature
import WeatherBus.VisibilitySensor.Basic
import WeatherBus.VisibilitySensor.Command
import WeatherBus.VisibilitySensor.Instrument
import WeatherBus.VisibilitySensor.Settings
import WeatherBus.Text.Bounds
import WeatherBus.Text.Hidden
import WeatherBus.Text.Letter
import WeatherBus.Proofs.Instrument.Conduct
import WeatherBus.Proofs.DigitalBarometer.Conduct
import WeatherBus.Proofs.HumidityProbe.Conduct
import WeatherBus.Proofs.LightningDetector.Conduct
import WeatherBus.Proofs.Terminal.Conduct
import WeatherBus.Proofs.VisibilitySensor.Conduct
import WeatherBus.Proofs.Bus.Tracking
import WeatherBus.Proofs.BusBarometer.Conduct
import WeatherBus.Proofs.Kinds
import WeatherBus.Proofs.Conservation
import WeatherBus.Proofs.Refusal
import WeatherBus.Proofs.Bus.Record
import WeatherBus.Proofs.Emulator.Step
import WeatherBus.Proofs.Emulator.Tracking
import WeatherBus.Proofs.Emulator.Recording
import WeatherBus.Proofs.Emulator.Restart
import WeatherBus.Proofs.Bus.Log
import WeatherBus.Proofs.Checksum
import WeatherBus.Proofs.Corruption
import WeatherBus.Proofs.Emulator.Flow
import WeatherBus.Proofs.Emulator.Intake
import WeatherBus.Proofs.Emulator.Sleep
import WeatherBus.Proofs.Number.Digits
import WeatherBus.Proofs.BusBarometer.Checksum
import WeatherBus.Proofs.Frame.Style
import WeatherBus.Proofs.Frame.Stream
import WeatherBus.Proofs.Number.Written
import WeatherBus.Proofs.Keyword
import WeatherBus.Proofs.LightningDetector.Language
import WeatherBus.Proofs.VisibilitySensor.Language
import WeatherBus.Proofs.Language
import WeatherBus.Proofs.Bus.Reply
import WeatherBus.Proofs.LightningDetector.Reply
import WeatherBus.Proofs.VisibilitySensor.Reply
import WeatherBus.Proofs.Reply
import WeatherBus.Proofs.Bus.Fate
import WeatherBus.Proofs.Bus.Broadcast
import WeatherBus.Proofs.VisibilitySensor.Commit
import WeatherBus.Proofs.BusBarometer.Period
import WeatherBus.Proofs.Terminal.Line
import WeatherBus.Proofs.SharedLine
import WeatherBus.Proofs.Terminal.Language
import WeatherBus.Proofs.Terminal.Standing
import WeatherBus.Proofs.InStep
import WeatherBus.Proofs.Bus.Visit
import WeatherBus.Proofs.Instrument.Timing
import WeatherBus.Proofs.Terminal.Effect
import WeatherBus.Proofs.Number.Magnitude
import WeatherBus.Proofs.BusBarometer.Effect
import WeatherBus.Proofs.LightningDetector.Effect
import WeatherBus.Proofs.VisibilitySensor.Effect
import WeatherBus.Proofs.DigitalBarometer.Range
import WeatherBus.Proofs.HumidityProbe.Range
import WeatherBus.Proofs.Agreement
import WeatherBus.Proofs.Ranges
import WeatherBus.Proofs.Bus.Tick
import WeatherBus.Proofs.Bus.Spacing
import WeatherBus.Proofs.Spacing
import WeatherBus.Proofs.Format.Evaluation
import WeatherBus.Proofs.Format.Reading
import WeatherBus.Proofs.Format.Writing
import WeatherBus.Proofs.BusBarometer.Broadcast
import WeatherBus.Proofs.Instrument.Field
import WeatherBus.Proofs.Fields
import WeatherBus.Proofs.Bus.Address
import WeatherBus.Proofs.VisibilitySensor.Transfer
import WeatherBus.Proofs.BusBarometer.Language
import WeatherBus.Proofs.BusBarometer.Setting
import WeatherBus.Proofs.Terminal.AskedFormat
import WeatherBus.Proofs.Terminal.Report
import WeatherBus.Proofs.Reports
import WeatherBus.Proofs.Number.Value
import WeatherBus.Proofs.Number.Rounded
import WeatherBus.Proofs.LightningDetector.Bearing
import WeatherBus.Proofs.Bus.Memory
import WeatherBus.Proofs.LightningDetector.Tally
import WeatherBus.Proofs.LightningDetector.Nearest
import WeatherBus.Proofs.Windows
import WeatherBus.Proofs.Frame.Run
import WeatherBus.Proofs.Frame.LineCut
import WeatherBus.Proofs.Frame.BlockCut
import WeatherBus.Proofs.Frame.Extraction
import WeatherBus.Proofs.Keyword.Longest
import WeatherBus.Proofs.Sample
import WeatherBus.Proofs.Feed
