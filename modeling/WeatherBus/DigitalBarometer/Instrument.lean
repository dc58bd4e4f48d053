import WeatherBus.DigitalBarometer.Command
import WeatherBus.DigitalBarometer.Variable
import WeatherBus.Terminal.Kind

/-! # The digital barometer

* **`DigitalBarometer.apply`** — what the commands of its own do;
* **`DigitalBarometer.kind`** — the barometer as an instrument with a terminal. -/

namespace WeatherBus

namespace DigitalBarometer

/-- A barometer with the settings of its terminal. -/
abbrev Registers := Terminal Variable DigitalBarometer

/-- The rates of the serial line that can be chosen. -/
def baudRates : List Int := [300, 600, 1200, 2400, 4800, 9600, 19200, 38400, 57600, 115200]

/-! ## Answers -/

/-- A number with fixed decimals and a unit behind it. -/
def quantity (decimals : Nat) (x : Float) (unit : String) : Text :=
  Decimal.fixed decimals x ++ ' ' :: unit.toList

/-- The pressure unit as an answer. -/
def pressureUnitReport (unit : PressureUnit) : Text := Terminal.report "P unit" unit.label

/-- The temperature unit as an answer. -/
def temperatureUnitReport (unit : TemperatureUnit) : Text := Terminal.report "T unit" unit.label

/-- Both units as an answer. -/
def unitReport (b : DigitalBarometer) : Text :=
  Terminal.lines [pressureUnitReport b.pressureUnit, temperatureUnitReport b.temperatureUnit]

/-- The settings of the serial line as an answer. -/
def lineReport (b : DigitalBarometer) : Text := Terminal.report "Baud P D S" b.line.render

/-- The echo as an answer. -/
def echoReport (b : DigitalBarometer) : Text := Terminal.report "Echo" (Terminal.switch b.echo)

/-- The name of a height. -/
def Height.label : Height → String
  | correction => "HCP height"
  | field => "QFE height"
  | sea => "QNH height"

/-- A height. -/
def height (b : DigitalBarometer) : Height → Float
  | .correction => b.correctionHeight
  | .field => b.fieldHeight
  | .sea => b.seaHeight

/-- A height as an answer. -/
def heightReport (which : Height) (b : DigitalBarometer) : Text :=
  Terminal.report which.label (quantity 2 (b.height which) "m")

/-- The averaging time as an answer. -/
def averagingReport (b : DigitalBarometer) : Text :=
  Terminal.report "Averaging time" (quantity 1 b.averaging "s")

/-- The stability limit as an answer. -/
def stabilityReport (b : DigitalBarometer) : Text :=
  Terminal.report "Stability limit" (quantity 2 b.stabilityLimit "hPa")

/-- Whether there is a pressure. -/
def errorReport (b : DigitalBarometer) : Text :=
  if b.modulePressures.toList.any Option.isSome then "No errors".toList
  else "Error: no pressure measurement".toList

/-- The format that a barometer comes with. -/
def factoryFormat : Text := "P \" \" U \\r\\n".toList

/-- All settings, line by line. -/
def info (d : Device Registers) : List Text :=
  let b := d.registers.own
  [Terminal.report "Serial number" d.serial,
   Terminal.report "Output format"
     ((d.registers.format.map Format.source).getD factoryFormat),
   Terminal.report "Address" (Numeral.ofNat d.address),
   d.registers.modeReport,
   d.registers.intervalReport,
   b.unitReport,
   b.lineReport,
   b.echoReport,
   b.heightReport .correction,
   b.heightReport .field,
   b.heightReport .sea,
   b.averagingReport,
   b.stabilityReport]

/-! ## Commands -/

/-- What is wrong with a parameter that cannot be understood. -/
def complaint (what : String) (parameter : Text) : String := s!"{what}: {String.ofList parameter}"

/-- A setting that cannot be understood. -/
def refuse (what : String) (parameter : Text) : Except Fault Outcome :=
  .error (.invalidParameter (complaint what parameter))

/-- The rate and its fault. -/
def chooseBaud (field : Option Int) (s : LineSettings) : LineSettings × Option Fault :=
  match field with
  | none => (s, none)
  | some n =>
    if baudRates.contains n then ({ s with baud := n.toNat }, none)
    else (s, some (.invalidParameter s!"baud rate {n}"))

/-- The parity and its fault. -/
def chooseParity (field : Option (Option Parity)) (s : LineSettings) :
    LineSettings × Option Fault :=
  match field with
  | none => (s, none)
  | some (some parity) => ({ s with parity }, none)
  | some none => (s, some (.invalidParameter "parity"))

/-- The data bits and their fault. -/
def chooseDataBits (field : Option Int) (s : LineSettings) : LineSettings × Option Fault :=
  match field with
  | none => (s, none)
  | some n =>
    if n = 7 ∨ n = 8 then ({ s with dataBits := n.toNat }, none)
    else (s, some (.outOfWholeRange "data bits" n 7 8))

/-- The stop bits and their fault. -/
def chooseStopBits (field : Option Int) (s : LineSettings) : LineSettings × Option Fault :=
  match field with
  | none => (s, none)
  | some n =>
    if n = 1 ∨ n = 2 then ({ s with stopBits := n.toNat }, none)
    else (s, some (.outOfWholeRange "stop bits" n 1 2))

/-- Take over all fields that are in their range. The first fault counts. -/
def LineSettings.update (u : LineUpdate) (s : LineSettings) : LineSettings × Option Fault :=
  let (s, baudFault) := chooseBaud u.baud s
  let (s, parityFault) := chooseParity u.parity s
  let (s, dataFault) := chooseDataBits u.dataBits s
  let (s, stopFault) := chooseStopBits u.stopBits s
  (s, Fault.first? [baudFault, parityFault, dataFault, stopFault])

/-- The heights that can be chosen. -/
def Height.range : Height → Float × Float
  | correction | field => (-30.0, 30.0)
  | sea => (-300.0, 3000.0)

/-- Choose a height. -/
def setHeight (which : Height) (x : Float) (b : DigitalBarometer) : DigitalBarometer :=
  match which with
  | .correction => { b with correctionHeight := x }
  | .field => { b with fieldHeight := x }
  | .sea => { b with seaHeight := x }

/-- Store a number of a range and report it. -/
def store (name : String) (range : Float × Float) (x : Float)
    (put : Float → DigitalBarometer → DigitalBarometer) (answer : DigitalBarometer → Text)
    (d : Device Registers) : Device Registers × Except Fault Outcome :=
  if Binary64.inRange range.1 range.2 x then
    let d := Terminal.changeOwn (put x) d
    (d, .ok (.say (answer d.registers.own)))
  else (d, .error (.outOfRange name x range.1 range.2))

/-- What a command does. -/
def apply (command : Command) (d : Device Registers) :
    Device Registers × Except Fault Outcome :=
  let b := d.registers.own
  match command with
  | .unit .query => (d, .ok (.say b.unitReport))
  | .unit (.set (.pressure unit)) =>
    (Terminal.changeOwn ({ · with pressureUnit := unit }) d, .ok (.say (pressureUnitReport unit)))
  | .unit (.set (.temperature unit)) =>
    (Terminal.changeOwn ({ · with temperatureUnit := unit }) d,
      .ok (.say (temperatureUnitReport unit)))
  | .unit (.invalid text) => (d, refuse "unit" text)
  | .line .query => (d, .ok (.say b.lineReport))
  | .line (.set update) =>
    let (line, fault) := b.line.update update
    let d := Terminal.changeOwn ({ · with line }) d
    (d, match fault with
      | some fault => .error fault
      | none => .ok (.say d.registers.own.lineReport))
  | .line (.invalid text) => (d, refuse "serial settings" text)
  | .echo .query => (d, .ok (.say b.echoReport))
  | .echo (.set echo) =>
    let d := Terminal.changeOwn ({ · with echo }) d
    (d, .ok (.say d.registers.own.echoReport))
  | .echo (.invalid text) => (d, refuse "echo" text)
  | .height which .query => (d, .ok (.say (b.heightReport which)))
  | .height which (.set x) =>
    store which.label which.range x (setHeight which) (heightReport which) d
  | .height _ (.invalid text) => (d, refuse "height" text)
  | .averaging .query => (d, .ok (.say b.averagingReport))
  | .averaging (.set x) =>
    store "averaging" (0.0, Float.ofNat maxAveraging) x (fun x b => { b with averaging := x })
      averagingReport d
  | .averaging (.invalid text) => (d, refuse "averaging" text)
  | .stability .query => (d, .ok (.say b.stabilityReport))
  | .stability (.set x) =>
    store "stability limit" (0.0, 10.0) x (fun x b => { b with stabilityLimit := x })
      stabilityReport d
  | .stability (.invalid text) => (d, refuse "stability limit" text)
  | .errors => (d, .ok (.say b.errorReport))

/-- The words for a fault. -/
def refusal? : Fault → Option Text
  | .unknownCommand _ => some "Unknown command".toList
  | .outOfRange _ _ _ _ => some "Value out of range".toList
  | .invalidParameter _ => some "Invalid parameter".toList
  | .addressInUse _ => some "Address in use".toList
  | _ => none

/-! ## The kind -/

/-- What a measurement shows. -/
def snapshot (timestamp : Timestamp) (d : Device Registers) : Reading :=
  let b := d.registers.own
  { modules := b.modulePressures
    temperatures := b.temperatures
    tendency := b.tendency
    tendencyCode := b.tendencyCode
    pressureUnit := b.pressureUnit
    temperatureUnit := b.temperatureUnit
    correctionHeight := b.correctionHeight
    fieldHeight := b.fieldHeight
    seaHeight := b.seaHeight
    stabilityLimit := b.stabilityLimit
    address := d.address
    serial := d.serial
    timestamp }

/-- The barometer as an instrument with a terminal. -/
def kind : Terminal.Kind Variable Reading DigitalBarometer Command where
  model := "PTB330".toList
  version := "1.12.0".toList
  maxAddress := 255
  maxCount := 255
  minInterval := 1
  addressRule := { unreadable := some 0, missing := 0 }
  vocabulary := vocabulary
  factoryFormat := factoryFormat
  keywords := Command.keywords
  applyOwn := apply
  complaint := complaint
  refusal? := refusal?
  repeats b := b.echo
  info := info
  snapshot := snapshot
  observe := observe
  restart := restart
  initial := {}
  serialNumber address := 'P' :: Numeral.ofNat (4250000 + address)

instance : Instrument Registers (Terminal.Command Command) := kind.instrument

end DigitalBarometer

end WeatherBus
