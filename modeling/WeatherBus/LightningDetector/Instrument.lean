import WeatherBus.Bus.Dispatch
import WeatherBus.LightningDetector.Basic
import WeatherBus.LightningDetector.Command

/-! # The lightning detector

A single detector at address 0. Every frame needs a checksum. It acknowledges a command by its word
and refuses one by the reason.

* **`LightningDetector.apply`** — what a command does;
* **`LightningDetector.bus`** — the bus with a new detector. -/

namespace WeatherBus

namespace LightningDetector

/-- The longest message in characters. -/
def maxMessage : Nat := 32

/-- The shortest and the longest interval in seconds. -/
def intervals : Int × Int := (1, 3600)

/-- The acknowledgement of a command. -/
def acknowledgement (command : Command) : Text := "ACK ".toList ++ command.keyword

/-- What a command does. -/
def apply (request : Request Command) (d : Device LightningDetector) :
    Device LightningDetector × Except Fault Outcome :=
  let acknowledged := acknowledgement request.command
  match request.command with
  | .status => (d, .ok (.say ("STATUS ".toList ++ d.registers.status d.schedule)))
  | .mode none => (d, .error (.invalidParameter "mode must be CONT, POLL, or STOP"))
  | .mode (some mode) => (d.mapSchedule (·.setMode mode), .ok (.sayAndWake acknowledged))
  | .interval seconds =>
    let (low, high) := intervals
    if low ≤ seconds ∧ seconds ≤ high then
      (d.mapSchedule (·.setInterval (seconds.toNat * 1000)), .ok (.sayAndWake acknowledged))
    else (d, .error (.outOfWholeRange "interval" seconds low high))
  | .poll => (d, .ok .measure)
  | .message text =>
    if text.length ≤ maxMessage then
      (d.mapRegisters ({ · with message := text }), .ok (.say acknowledged))
    else (d, .error (.outOfWholeRange "msg" text.length 0 maxMessage))
  | .range none => (d, .error (.invalidParameter "range must be KM, MI, or NM"))
  | .range (some range) => (d.mapRegisters ({ · with range }), .ok (.say acknowledged))
  | .squelch level =>
    if 0 ≤ level ∧ level ≤ maxSquelch then
      (d.mapRegisters ({ · with squelch := level.toNat }), .ok (.say acknowledged))
    else (d, .error (.outOfWholeRange "squelch" level 0 maxSquelch))
  | .reset => (d.mapRegisters ({ · with strikes := {} }), .ok (.say acknowledged))
  | .identify =>
    (d, .ok (.say (Parameter.join ["ID".toList, model, d.serial, firmware])))
  | .unknown word => (d, .error (.unknownCommand (String.ofList word)))

/-- The reason for which a command is refused, `none` if the detector stays silent. -/
def reason? : Fault → Option Text
  | .checksumMismatch _ _ => some "CRC".toList
  | .unknownCommand _ => some "UNKNOWN".toList
  | .outOfRange _ _ _ _ => some "RANGE".toList
  | .invalidParameter _ => some "PARAM".toList
  | _ => none

instance : Instrument LightningDetector Command where
  framing := .block
  read := Command.read
  needsChecksum _ := true
  apply := apply
  observe := observe
  canObserve := canObserve
  encodeReply _ _ body := frame body
  encodeFault _ _ fault := (reason? fault).map fun reason => frame ("NAK ".toList ++ reason)
  measurement _ d := frame d.registers.data
  canMeasure d := d.registers.canMeasure

/-- A new detector. -/
def new (serial : Text) : Device LightningDetector where
  address := 0
  serial := serial
  schedule := { mode := .polled, interval := 60000 }
  registers := {}

/-- The bus with a new detector. -/
def bus (serial : Text) : Except Fault (Bus LightningDetector) := (Bus.empty 0).insert (new serial)

end LightningDetector

end WeatherBus
