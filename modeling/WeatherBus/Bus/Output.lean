import WeatherBus.Instrument

/-! # Samples and measurements on a bus

* **`Bus.observe`** — all devices take in a sample;
* **`Bus.nextDue`**, **`Bus.due`** — when the next device is due, and which devices are;
* **`Bus.measurements`**, **`Bus.markSent`** — the messages of some devices, and the record that
  they were sent;
* **`Bus.ingest?`**, **`Bus.render?`** — the same, with nothing where the program breaks off. -/

namespace WeatherBus

namespace Bus

variable {R C : Type} [Instrument R C]

/-- All devices take in a sample. -/
def observe (sample : Sample) (bus : Bus R) : Bus R :=
  bus.map (Device.mapRegisters (Instrument.observe sample))

/-- All devices take in the sample of a feed line. A line without values is ignored. -/
def observeLine (line : Text) (bus : Bus R) : Bus R :=
  match Sample.parse? line with
  | some sample => bus.observe sample
  | none => bus

/-- The earliest time at which a device is due, seen from `now`. -/
def nextDue (now : Nat) (bus : Bus R) : Option Nat :=
  (bus.toList.filterMap fun d => d.schedule.nextDue now).min?

/-- The addresses of the devices that are due. -/
def due (now : Nat) (bus : Bus R) : List Nat :=
  (bus.toList.filter fun d => d.schedule.isDue now).map Device.address

/-- The messages of the devices at some addresses, in this order. -/
def measurements (timestamp : Timestamp) (addresses : List Nat) (bus : Bus R) : Bytes :=
  addresses.flatMap fun address =>
    match bus.get? address with
    | some device => Instrument.measurement timestamp device
    | none => []

/-- Record a message sent at a time for the devices at some addresses. -/
def markSent (time : Nat) (addresses : List Nat) (bus : Bus R) : Bus R :=
  addresses.foldl (fun bus address => bus.modify address (Device.mapSchedule (·.markSent time))) bus

/-! ## Breaking off -/

/-- Whether the program can go on when all devices take in a sample. -/
def canObserve (sample : Sample) (bus : Bus R) : Bool :=
  bus.toList.all fun d => Instrument.canObserve sample d.registers

/-- Whether the program can go on when the devices at some addresses write their measurements. -/
def canMeasure (addresses : List Nat) (bus : Bus R) : Bool :=
  addresses.all fun address => (bus.get? address).all Instrument.canMeasure

/-- All devices take in a sample, `none` where the program breaks off. -/
def ingest? (sample : Sample) (bus : Bus R) : Option (Bus R) :=
  if bus.canObserve sample then some (bus.observe sample) else none

/-- All devices take in the sample of a feed line, `none` where the program breaks off. -/
def ingestLine? (line : Text) (bus : Bus R) : Option (Bus R) :=
  match Sample.parse? line with
  | some sample => bus.ingest? sample
  | none => some bus

/-- The messages of the devices at some addresses, `none` where the program breaks off. -/
def render? (timestamp : Timestamp) (addresses : List Nat) (bus : Bus R) : Option Bytes :=
  if bus.canMeasure addresses then some (bus.measurements timestamp addresses) else none

end Bus

end WeatherBus
