import WeatherBus.Bus.Dispatch
import WeatherBus.BusBarometer.Basic
import WeatherBus.BusBarometer.Command

/-! # The bus barometer

A single barometer at address 0, or up to 98 of them from address 1 on. A command that is refused is
answered with the setting in force.

* **`BusBarometer.frame`** — the line of a text;
* **`BusBarometer.apply`** — what a command does;
* **`BusBarometer.bus`** — the bus with a number of new barometers. -/

namespace WeatherBus

namespace BusBarometer

/-- The model. -/
def model : Text := "LB-100".toList

/-- The number that unlocks the calibration. -/
def pin : Int := 1234

/-- The longest interval in seconds. -/
def maxInterval : Float := 9999.0

/-- The largest offset, upwards and downwards. -/
def maxOffset : Float := 10.0

/-- The gains that can be chosen. -/
def gains : Float × Float := (0.9, 1.1)

/-! ## Lines -/

/-- The line of a text, with the address in front unless it is 0, and with a checksum if it is
enabled. -/
def frame (d : Device BusBarometer) (body : Text) : Bytes :=
  let line := if d.address = 0 then body else Numeral.zeroPadded 2 d.address ++ ':' :: body
  let check :=
    if d.registers.checked then '*' :: Numeral.hex 2 (Checksum.xor (Utf8.encode line)).toNat
    else []
  Utf8.encode (line ++ check) ++ [0x0D, 0x0A]

/-- The report of a calibration. -/
def calibrationReport (point : Int) (value : Float) : Text :=
  'K' :: ',' :: Numeral.ofInt point ++ ',' :: Decimal.shortest value

/-- The setting in force that a command is about, `none` for a command that changes nothing. -/
def settingInForce? (command : Command) (d : Device BusBarometer) : Option Text :=
  let r := d.registers
  match command with
  | .autoSend _ _ => some r.autoSendReport
  | .setAddress _ => some (Numeral.ofNat d.address)
  | .setUnit _ => some (Numeral.ofNat r.unitCode)
  | .setFilter _ => some (Numeral.ofNat r.filter)
  | .setChecksum _ => some (Numeral.ofNat r.checked.toNat)
  | .calibrate _ 1 _ => some (calibrationReport 1 r.offset)
  | .calibrate _ 2 _ => some (calibrationReport 2 r.gain)
  | _ => none

/-- The text of a refusal. -/
def refusalText (command : Command) (d : Device BusBarometer) : Fault → Text
  | .checksumMismatch _ _ => "CSERR".toList
  | .accessDenied => "PINERR".toList
  | .outOfRange _ _ _ _ => (settingInForce? command d).getD "ERR".toList
  | .invalidParameter _ => (settingInForce? command d).getD "ERR".toList
  | _ => "ERR".toList

/-! ## Commands -/

/-- A parameter from 0 to `high`. -/
def upTo (name : String) (high : Nat) (n : Int) : Except Fault Nat :=
  if 0 ≤ n ∧ n ≤ high then .ok n.toNat else .error (.outOfWholeRange name n 0 high)

/-- Choose the interval, rounded to hundredths of a second. An interval of zero stops the output. -/
def setInterval (seconds : Float) (d : Device BusBarometer) : Device BusBarometer :=
  let hundredths := Binary64.roundUp (seconds * 100.0)
  let schedule := d.schedule.setInterval (hundredths * 10)
  { d with
    schedule := if 0 < hundredths then schedule.start else schedule.stop
    registers := { d.registers with interval := hundredths } }

/-- Choose a format, if one is named and there is one of this number. -/
def chooseFormat (format : Option Int) (d : Device BusBarometer) :
    Device BusBarometer × Option Fault :=
  match format with
  | none => (d, none)
  | some n =>
    match upTo "format" maxFormat n with
    | .ok format => (d.mapRegisters ({ · with format }), none)
    | .error fault => (d, some fault)

/-- Choose an interval, if one is named and in range. -/
def chooseInterval (interval : Option Float) (d : Device BusBarometer) :
    Device BusBarometer × Option Fault :=
  match interval with
  | none => (d, none)
  | some seconds =>
    if Binary64.inRange 0.0 maxInterval seconds then (setInterval seconds d, none)
    else (d, some (.outOfRange "interval" seconds 0.0 maxInterval))

/-- Choose format and interval, each on its own. The first fault counts. -/
def autoSend (format : Option Int) (interval : Option Float) (d : Device BusBarometer) :
    Device BusBarometer × Except Fault Outcome :=
  let (d, formatFault) := chooseFormat format d
  let (d, intervalFault) := chooseInterval interval d
  match formatFault.or intervalFault with
  | some fault => (d, .error fault)
  | none => (d, .ok (.sayAndWake d.registers.autoSendReport))

/-- Store a whole number from 0 to `high`, which is also the answer. -/
def store (name : String) (high : Nat) (n : Int) (put : Nat → BusBarometer → BusBarometer)
    (d : Device BusBarometer) : Device BusBarometer × Except Fault Outcome :=
  match upTo name high n with
  | .ok value => (d.mapRegisters (put value), .ok (.say (Numeral.ofNat value)))
  | .error fault => (d, .error fault)

/-- Store a calibration if the number is right and the value in range. -/
def calibrate (number point : Int) (value : Float) (d : Device BusBarometer) :
    Device BusBarometer × Except Fault Outcome :=
  let done : Outcome := .say (calibrationReport point value)
  if number ≠ pin then (d, .error .accessDenied)
  else if point = 1 then
    if value.abs ≤ maxOffset then (d.mapRegisters ({ · with offset := value }), .ok done)
    else (d, .error (.outOfRange "offset" value (-maxOffset) maxOffset))
  else if point = 2 then
    if Binary64.inRange gains.1 gains.2 value then
      (d.mapRegisters ({ · with gain := value }), .ok done)
    else (d, .error (.outOfRange "gain" value gains.1 gains.2))
  else (d, .error (.outOfWholeRange "point" point 1 2))

/-- What a command does. -/
def apply (request : Request Command) (d : Device BusBarometer) :
    Device BusBarometer × Except Fault Outcome :=
  match request.command with
  | .queryAutoSend => (d, .ok (.say d.registers.autoSendReport))
  | .autoSend format interval => autoSend format interval d
  | .queryAddress => (d, .ok (.say (Numeral.ofNat d.address)))
  | .setAddress n =>
    (d, (upTo "address" maxAddress n).map fun address =>
      .sayFrom address (Numeral.ofNat address))
  | .queryUnit => (d, .ok (.say (Numeral.ofNat d.registers.unitCode)))
  | .setUnit n => store "unit" (units.length - 1) n (fun v r => { r with unitCode := v }) d
  | .queryFilter => (d, .ok (.say (Numeral.ofNat d.registers.filter)))
  | .setFilter n => store "filter" maxFilter n (fun v r => { r with filter := v }) d
  | .queryChecksum => (d, .ok (.say (Numeral.ofNat d.registers.checked.toNat)))
  | .setChecksum n => store "checksum" 1 n (fun v r => { r with checked := v == 1 }) d
  | .calibrate number point value => calibrate number point value d
  | .poll => (d, .ok .measure)
  | .resume => (d.mapSchedule Schedule.start, .ok .silentWake)
  | .stop => (d.mapSchedule Schedule.stop, .ok .silentWake)
  | .identify => (d, .ok (.say (model ++ ',' :: d.serial)))
  | .unknown text => (d, .error (.unknownCommand (String.ofList text)))

/-- A measurement in the chosen format. -/
def measurement (timestamp : Timestamp) (d : Device BusBarometer) : Bytes :=
  match preset d.registers.format with
  | .ok format =>
    frame d (format.output vocabulary (d.registers.reading timestamp d.serial))
  | .error _ => []

instance : Instrument BusBarometer Command where
  framing := .line
  read := Command.read
  needsChecksum d := d.registers.checked
  apply := apply
  observe := observe
  encodeReply _ d body := frame d body
  encodeFault request d fault := some (frame d (refusalText request.command d fault))
  measurement := measurement

/-! ## The bus -/

/-- The serial number of the barometer that starts at an address. -/
def serialNumber (address : Nat) : Text := 'B' :: Numeral.zeroPadded 7 (4210 + address)

/-- A new barometer. -/
def new (address : Nat) : Device BusBarometer where
  address := address
  serial := serialNumber address
  schedule := {}
  registers := {}

/-- The bus with a number of new barometers. A single one has address 0. -/
def bus (count : Nat) : Except Fault (Bus BusBarometer) :=
  if count = 0 ∨ maxAddress < count then
    .error (.outOfWholeRange "devices" count 1 maxAddress)
  else if count = 1 then (Bus.empty maxAddress).insertAll [new 0]
  else (Bus.empty maxAddress).insertAll ((List.range count).map fun n => new (n + 1))

end BusBarometer

end WeatherBus
