import WeatherBus.HumidityProbe.Command
import WeatherBus.HumidityProbe.Variable
import WeatherBus.Terminal.Kind

/-! # The humidity probe

* **`HumidityProbe.apply`** — what the commands of its own do;
* **`HumidityProbe.kind`** — the probe as an instrument with a terminal. -/

namespace WeatherBus

namespace HumidityProbe

/-- A probe with the settings of its terminal. -/
abbrev Registers := Terminal Variable HumidityProbe

/-! ## Answers -/

/-- The units as an answer. -/
def unitReport (units : UnitSystem) : Text := Terminal.report "Output units" units.name

/-- Whether the probe may be heated, and whether it is. -/
def heatingState (p : HumidityProbe) : Text :=
  if p.isHeating then "ON, heating".toList else Terminal.switch p.heating.enabled

/-- The heating as an answer. -/
def heatingReport (p : HumidityProbe) : Text :=
  Terminal.lines
    [Terminal.report "Extra heat" p.heatingState,
     Terminal.report "Heat RH limit" (Numeral.ofNat p.heating.humidityLimit ++ " %RH".toList),
     Terminal.report "Heat temp" (Numeral.ofNat p.heating.temperature ++ " 'C".toList),
     Terminal.report "Heat time" (Numeral.ofNat p.heating.time ++ " s".toList)]

/-- The format that a probe comes with. -/
def factoryFormat : Text := "\"RH=\" 5.1 RH \" \" U4 \"T=\" 5.1 T \" \" U \\r\\n".toList

/-- All settings, line by line. -/
def info (d : Device Registers) : List Text :=
  [Terminal.report "Serial number" d.serial,
   Terminal.report "Output format"
     ((d.registers.format.map Format.source).getD factoryFormat),
   Terminal.report "Address" (Numeral.ofNat d.address),
   d.registers.modeReport,
   d.registers.intervalReport,
   unitReport d.registers.own.units,
   d.registers.own.heatingReport]

/-! ## Commands -/

/-- A limit up to `high`, if it is present and in range, and else the old one. -/
def chooseLimit (name : String) (high : Nat) (field : Option Int) (old : Nat) :
    Nat × Option Fault :=
  match field with
  | none => (old, none)
  | some n =>
    if 0 ≤ n ∧ n ≤ high then (n.toNat, none) else (old, some (.outOfWholeRange name n 0 high))

/-- Take over all limits that are in their range. The first fault counts. -/
def Heating.update (humidity temperature time : Option Int) (h : Heating) :
    Heating × Option Fault :=
  let (humidityLimit, humidityFault) := chooseLimit "heat RH limit" 100 humidity h.humidityLimit
  let (temperature, temperatureFault) :=
    chooseLimit "heat temperature" 200 temperature h.temperature
  let (time, timeFault) := chooseLimit "heat time" 255 time h.time
  ({ h with humidityLimit, temperature, time },
    Fault.first? [humidityFault, temperatureFault, timeFault])

/-- What is wrong with a parameter that cannot be understood: the parameter itself. -/
def complaint (_what : String) (parameter : Text) : String := String.ofList parameter

/-- A setting that cannot be understood. -/
def refuse (parameter : Text) : Except Fault Outcome :=
  .error (.invalidParameter (complaint "" parameter))

/-- What a command does. -/
def apply (command : Command) (d : Device Registers) :
    Device Registers × Except Fault Outcome :=
  let p := d.registers.own
  match command with
  | .units .query => (d, .ok (.say (unitReport p.units)))
  | .units (.set units) =>
    (Terminal.changeOwn ({ · with units }) d, .ok (.say (unitReport units)))
  | .units (.invalid text) => (d, refuse text)
  | .heating .query => (d, .ok (.say p.heatingReport))
  | .heating (.set (.enable enabled)) =>
    let d := Terminal.changeOwn (fun p => { p with heating := { p.heating with enabled } }) d
    (d, .ok (.say d.registers.own.heatingReport))
  | .heating (.set (.limits humidity temperature time)) =>
    let (heating, fault) := p.heating.update humidity temperature time
    let d := Terminal.changeOwn ({ · with heating }) d
    (d, match fault with
      | some fault => .error fault
      | none => .ok (.say d.registers.own.heatingReport))
  | .heating (.invalid text) => (d, refuse text)

/-- The words for a fault. -/
def refusal? : Fault → Option Text
  | .unknownCommand _ => some "Unknown command".toList
  | .outOfRange _ _ _ _ => some "Invalid setting".toList
  | .invalidParameter _ => some "Invalid setting".toList
  | .addressInUse _ => some "Address in use".toList
  | _ => none

/-! ## The kind -/

/-- What a measurement shows. -/
def snapshot (timestamp : Timestamp) (d : Device Registers) : Reading :=
  let p := d.registers.own
  { humidity := p.humidity
    temperature := p.temperature
    additionalTemperature := p.additionalTemperature
    pressure := p.pressure.getD standardPressure
    units := p.units
    address := d.address
    serial := d.serial
    timestamp }

/-- The probe as an instrument with a terminal. -/
def kind : Terminal.Kind Variable Reading HumidityProbe Command where
  model := "HMP155".toList
  version := "1.24".toList
  maxAddress := 99
  maxCount := 100
  minInterval := 0
  addressRule := { unreadable := none, missing := -1 }
  vocabulary := vocabulary
  factoryFormat := factoryFormat
  keywords := Command.keywords
  applyOwn := apply
  complaint := complaint
  refusal? := refusal?
  repeats _ := false
  info := info
  snapshot := snapshot
  observe := observe
  restart := restart
  initial := {}
  serialNumber address := 'H' :: Numeral.ofNat (5150000 + address)

instance : Instrument Registers (Terminal.Command Command) := kind.instrument

end HumidityProbe

end WeatherBus
