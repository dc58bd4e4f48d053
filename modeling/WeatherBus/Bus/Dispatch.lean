import WeatherBus.Instrument

/-! # Frames on a bus

* **`Bus.dispatch`** — read a frame, find the devices it is for, carry out its command on each of
  them, and collect the answers;
* **`Answer`** — what comes out of it; the answer of several devices is the concatenation of
  theirs. -/

namespace WeatherBus

/-- What comes out of one frame. -/
structure Answer where
  /-- The bytes to send. -/
  reply : Bytes := []
  /-- The devices that answer with a measurement, after a new sample has been taken. -/
  measurements : List Nat := []
  /-- Whether the schedule of a device may have changed. -/
  wake : Bool := false
  /-- Why the frame was refused, device by device. -/
  faults : List Fault := []
deriving DecidableEq, Repr

namespace Answer

/-- One answer behind another. -/
def append (a b : Answer) : Answer where
  reply := a.reply ++ b.reply
  measurements := a.measurements ++ b.measurements
  wake := a.wake || b.wake
  faults := a.faults ++ b.faults

instance : Append Answer := ⟨append⟩

/-- No device has anything to say. -/
def none : Answer := {}

/-- A frame that no device can be found for. -/
def lost (fault : Fault) : Answer := { faults := [fault] }

end Answer

namespace Bus

variable {R C : Type} [Instrument R C]

/-- The addresses of the devices that a request is for. -/
def resolve (target : Target) (bus : Bus R) : Except Fault (List Nat) :=
  match target with
  | .address a => if bus.contains a then .ok [a] else .error (.addressOutOfRange a)
  | .all => .ok bus.addresses
  | .first => .ok bus.first?.toList

/-- Whether a device may carry out a request: its checksum has to match, it may be left out only
where none is needed, and the address that the device is to be moved to has to be free. -/
def permit (request : Request C) (device : Device R) (bus : Bus R) : Except Fault Unit := do
  match request.checksum with
  | .valid => pure ()
  | .invalid received calculated => throw (.checksumMismatch (some received) (some calculated))
  | .absent => if Instrument.needsChecksum device then throw (.checksumMismatch none none)
  match Instrument.requestedAddress request device with
  | some new => if new ≠ device.address && bus.contains new then throw (.addressInUse new)
  | none => pure ()

/-- The answer of a device that refuses a request. -/
def refusal (request : Request C) (device : Device R) (wake : Bool) (fault : Fault) : Answer where
  reply := (Instrument.encodeFault request device fault).getD []
  wake := wake
  faults := [fault]

/-- The answer of a device that has carried out a request. -/
def answer (request : Request C) (device : Device R) (outcome : Outcome) : Answer :=
  match outcome.reply with
  | .silent => { wake := outcome.wake }
  | .text body => { reply := Instrument.encodeReply request device body, wake := outcome.wake }
  | .measurement => { measurements := [device.address], wake := outcome.wake }

/-- Move a device that has carried out a request to its new address and collect its answer. -/
def settle (request : Request C) (device : Device R) (outcome : Outcome) (bus : Bus R) :
    Bus R × Answer :=
  match outcome.moveTo with
  | none => (bus, answer request device outcome)
  | some new =>
    match bus.reassign device.address new with
    | .ok moved => (moved, answer request { device with address := new } outcome)
    | .error fault => (bus, refusal request device outcome.wake fault)

/-- Carry out a request on the device at one address. A request that fails may have been carried out
in part, so the schedule is looked at again. -/
def dispatchTo (request : Request C) (address : Nat) (bus : Bus R) : Bus R × Answer :=
  match bus.get? address with
  | none => (bus, .none)
  | some device =>
    match bus.permit request device with
    | .error fault => (bus, refusal request device true fault)
    | .ok () =>
      match Instrument.apply request device with
      | (changed, .error fault) =>
        (bus.replace address changed, refusal request changed true fault)
      | (changed, .ok outcome) => settle request changed outcome (bus.replace address changed)

/-- Carry out a request on the devices at some addresses, one after the other. -/
def dispatchAll (request : Request C) : List Nat → Bus R → Bus R × Answer
  | [], bus => (bus, .none)
  | address :: rest, bus =>
    let (bus, first) := dispatchTo request address bus
    let (bus, others) := dispatchAll request rest bus
    (bus, first ++ others)

/-- Carry out a frame. A frame that cannot be read, or that no device can be found for, is not
answered. -/
def dispatch (frame : Bytes) (bus : Bus R) : Bus R × Answer :=
  match Instrument.read R frame with
  | .error fault => (bus, .lost fault)
  | .ok request =>
    match bus.resolve request.target with
    | .error fault => (bus, .lost fault)
    | .ok addresses => dispatchAll request addresses bus

end Bus

end WeatherBus
