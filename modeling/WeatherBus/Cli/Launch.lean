import WeatherBus.BusBarometer.Instrument
import WeatherBus.Cli.Arguments
import WeatherBus.Cli.LogFilter
import WeatherBus.DigitalBarometer.Instrument
import WeatherBus.Emulator.Run
import WeatherBus.HumidityProbe.Instrument
import WeatherBus.LightningDetector.Instrument
import WeatherBus.VisibilitySensor.Instrument

/-! # Launching an emulator

* **`Cli.Options.prepare`** — check the configuration, then open the feed, then the line;
* **`Cli.Options.start`** — the emulator of the kind that is asked for;
* **`Cli.Exit`** — how the program ends. -/

namespace WeatherBus

namespace Cli

/-! ## Before the start -/

/-- Where the host is reached, a network address taken apart. -/
inductive Endpoint where
  | serialPort (name : Text)
  | network (host : Text) (port : Nat)
deriving DecidableEq, Repr

/-- What the program opens in its surroundings. `L` is an open line. -/
structure Surroundings (m : Type → Type) (L : Type) where
  openFeed : Text → m (Except Failure Feed)
  openLine : Endpoint → m (Except Failure L)

/-- The endpoint of a network address, which is a host and the number of a port behind a colon. -/
def Endpoint.ofAddress (address : Text) : Except Failure Endpoint :=
  match splitLast? (· == ':') address with
  | none => .error (.line "invalid socket address")
  | some (host, port) =>
    match Numeral.unsigned? 10 16 port with
    | some port => .ok (.network host port)
    | none => .error (.line "invalid port value")

/-- The endpoint of a place. -/
def Place.endpoint : Place → Except Failure Endpoint
  | .serialPort name => .ok (.serialPort name)
  | .network address => Endpoint.ofAddress address

namespace Options

/-- The configuration that is asked for. -/
def config (options : Options) : Except Failure Emulator.Config :=
  Emulator.Config.check {
    port := options.place.name
    baud := options.baud
    electrical := options.electrical
    feed := options.feed
    devices := options.devices }

/-- Check the configuration, then open the feed, then the line. -/
def prepare {m : Type → Type} {L : Type} [Monad m] (surroundings : Surroundings m L)
    (options : Options) : m (Except Failure (Feed × L)) := ExceptT.run do
  let config ← ExceptT.mk (pure options.config)
  let feed ← ExceptT.mk (surroundings.openFeed config.feed)
  let endpoint ← ExceptT.mk (pure options.place.endpoint)
  let line ← ExceptT.mk (surroundings.openLine endpoint)
  return (feed, line)

/-! ## The start -/

/-- Put the devices of the kind that is asked for on a bus, and go on with their emulator. -/
def start {α : Type} (options : Options) (feed : Feed)
    (go : {R C : Type} → [Instrument R C] → Emulator R → α) : Except Failure α :=
  let started {R C : Type} [Instrument R C] (bus : Except Fault (Bus R)) : Except Failure α :=
    match bus with
    | .ok bus => .ok (go (Emulator.begin Emulator.Config.maxFrame feed bus))
    | .error fault => .error (.devices fault)
  match options.instrument with
  | .digitalBarometer => started (DigitalBarometer.kind.bus options.devices)
  | .humidityProbe => started (HumidityProbe.kind.bus options.devices)
  | .busBarometer => started (BusBarometer.bus options.devices)
  | .visibilitySensor => started (VisibilitySensor.bus options.devices)
  | .lightningDetector =>
    if 1 < options.devices then
      .error (.invalidConfig "the thunderstorm detector does not share its line")
    else started (LightningDetector.bus options.serial)

end Options

/-! ## The end -/

/-- The message about a failure, as far as filters look at it. -/
def failureEvent : LogEvent where
  level := .error
  source := "wxemu".toList
  fields := ["message".toList, "error".toList]

/-- The log filter in force: the one of the environment, if all of it can be read, and else what can
be read of the one of the options. `none` if a directive is torn. -/
def Options.logFilter? (environment : Environment) (options : Options) : Option LogFilter :=
  match environment.logFilter.map LogFilter.read with
  | some (.ok filter) => some filter
  | some (.error .torn) => none
  | _ => LogFilter.readValid options.logLevel

/-- How the program ends. -/
structure Exit where
  code : Nat
  /-- The failure, if it is logged. -/
  failure : Option String
deriving DecidableEq, Repr

namespace Exit

/-- All went well. -/
def success : Exit := ⟨0, none⟩

/-- The call cannot be understood. -/
def usage : Exit := ⟨2, none⟩

/-- A directive of the log filter is torn, and nothing can be logged. -/
def breakdown : Exit := ⟨101, none⟩

/-- The end of a call that was understood. -/
def ofFailure? (filter : LogFilter) : Option Failure → Exit
  | none => success
  | some failure => ⟨1, if filter.shows failureEvent then some failure.message else none⟩

/-- The line of the log about a failure. -/
def logLine (timestamp : Timestamp) (failure : String) : String :=
  let date := String.ofList timestamp.date
  let time := String.ofList timestamp.time
  s!"{date}T{time}Z ERROR emulator failed error={failure}"

end Exit

end Cli

end WeatherBus
