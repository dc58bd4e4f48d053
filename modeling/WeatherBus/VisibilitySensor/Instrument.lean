import WeatherBus.Bus.Dispatch
import WeatherBus.VisibilitySensor.Basic
import WeatherBus.VisibilitySensor.Command

/-! # The visibility sensor

Up to ten sensors at the addresses 0 to 9. The address is one of the settings, so that a change of
the settings, or a reset, may move a sensor.

* **`VisibilitySensor.apply`** — what a command does;
* **`VisibilitySensor.bus`** — the bus with a number of new sensors. -/

namespace WeatherBus

namespace VisibilitySensor

/-- The number that unlocks the calibration. -/
def pin : Int := 1234

/-- The calibrations of the contamination that can be chosen. -/
def zeros : Float × Float := (-5.0, 5.0)

/-- The calibrations of the visibility that can be chosen. -/
def spans : Float × Float := (0.8, 1.2)

/-- The settings as an answer. -/
def settingsReport (id : Nat) (settings : Settings) : Text := "SET:".toList ++ settings.render id

/-- Put settings in force. -/
def activate (settings : Settings) (d : Device VisibilitySensor) : Device VisibilitySensor :=
  { d with
    schedule := settings.reschedule d.schedule
    registers := { d.registers with active := settings } }

/-- An answer after which the sensor has an address. -/
def settled (id : Nat) (d : Device VisibilitySensor) : Outcome where
  reply := .text (settingsReport id d.registers.active)
  moveTo := if id = d.address then none else some id
  wake := true

/-- Change the settings, and with `keep` also those that a reset brings back. The sensor moves only
if all fields are accepted. -/
def change (keep : Bool) (update : SettingsUpdate) (d : Device VisibilitySensor) :
    Device VisibilitySensor × Except Fault Outcome :=
  let id := match update.fault? with
    | some _ => d.address
    | none => update.newId?.getD d.address
  let changed := activate (d.registers.active.update update) d
  let kept :=
    if keep then
      changed.mapRegisters fun r => { r with committed := r.active, committedId := id }
    else changed
  match update.fault? with
  | some fault => (kept, .error fault)
  | none => (kept, .ok (settled id kept))

/-- Store a calibration if the number is right and the value in range. -/
def calibrate (number point : Int) (value : Float) (d : Device VisibilitySensor) :
    Device VisibilitySensor × Except Fault Outcome :=
  let done : Outcome := .say (List.intercalate [':']
    ["CAL".toList, Numeral.ofNat d.address, Numeral.ofInt point, Decimal.shortest value])
  if number ≠ pin then (d, .error .accessDenied)
  else if point = 1 then
    if Binary64.inRange zeros.1 zeros.2 value then
      (d.mapRegisters ({ · with zero := value }), .ok done)
    else (d, .error (.outOfRange "calibration" value zeros.1 zeros.2))
  else if point = 2 then
    if Binary64.inRange spans.1 spans.2 value then
      (d.mapRegisters ({ · with span := value }), .ok done)
    else (d, .error (.outOfRange "calibration" value spans.1 spans.2))
  else (d, .error (.outOfWholeRange "point" point 1 2))

/-- What a command does. -/
def apply (request : Request Command) (d : Device VisibilitySensor) :
    Device VisibilitySensor × Except Fault Outcome :=
  match request.command with
  | .get => (d, .ok (.say (settingsReport d.address d.registers.active)))
  | .set update => change true update d
  | .setUntilReset update => change false update d
  | .chooseFields none => (d, .error (.invalidParameter "message mask is not hex"))
  | .chooseFields (some mask) =>
    if mask &&& allFields = mask then
      (d.mapRegisters ({ · with mask }), .ok (.say (List.intercalate [':']
        ["MSGSET".toList, Numeral.ofNat d.address, Numeral.hex 1 mask])))
    else (d, .error (.reservedBits mask allFields))
  | .poll => (d, .ok .measure)
  | .calibrate number point value => calibrate number point value d
  | .reset =>
    let restored := activate d.registers.committed d
    (restored, .ok (settled d.registers.committedId restored))
  | .unknown keyword => (d, .error (.unknownCommand (String.ofList keyword)))

/-- The address to which a request is going to move a sensor. -/
def requestedAddress (request : Request Command) (d : Device VisibilitySensor) : Option Nat :=
  match request.command with
  | .set update => update.newId?
  | .setUntilReset update => update.newId?
  | .reset => some d.registers.committedId
  | _ => none

/-- The code of a fault, `none` if the sensor stays silent. -/
def code? : Fault → Option Nat
  | .checksumMismatch _ _ => some 1
  | .unknownCommand _ => some 2
  | .outOfRange _ _ _ _ => some 3
  | .invalidParameter _ => some 3
  | .addressInUse _ => some 3
  | .accessDenied => some 4
  | .reservedBits _ _ => some 5
  | _ => none

instance : Instrument VisibilitySensor Command where
  framing := .block
  read := Command.read
  needsChecksum d := d.registers.active.checked
  requestedAddress := requestedAddress
  apply := apply
  observe := observe
  encodeReply _ _ body := frame body
  encodeFault _ d fault := (code? fault).map fun code =>
    frame (List.intercalate [':'] ["ERR".toList, Numeral.ofNat d.address, Numeral.ofNat code])
  measurement _ d := frame (d.registers.data d.address)

/-- A new sensor. -/
def new (id : Nat) : Device VisibilitySensor :=
  activate {} { address := id, serial := [], schedule := {}, registers := { committedId := id } }

/-- The bus with a number of new sensors. -/
def bus (count : Nat) : Except Fault (Bus VisibilitySensor) :=
  if count = 0 ∨ maxId + 1 < count then
    .error (.outOfWholeRange "devices" count 1 (maxId + 1 : Nat))
  else (Bus.empty maxId).insertAll ((List.range count).map new)

end VisibilitySensor

end WeatherBus
