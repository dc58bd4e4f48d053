import WeatherBus.Bus.Dispatch
import WeatherBus.Bus.Output

/-! # Exchanges with the host

The two occasions at which a bus sends something, each with the line of measurements that the
devices take in before they send any.

* **`Bus.exchange`**, **`Bus.exchange?`** — carry out a frame and answer it, with nothing where the
  program breaks off;
* **`Bus.tick`**, **`Bus.tick?`** — send the messages that are due, in the same way. -/

namespace WeatherBus

namespace Bus

variable {R C : Type} [Instrument R C]

/-- All devices take in the sample of a line, if there is a line and it has one. -/
def refresh (line : Option Text) (bus : Bus R) : Bus R :=
  match line with
  | some line => bus.observeLine line
  | none => bus

/-- Carry out a frame. If devices answer with a measurement, a line is taken in first, and the bytes
of the measurements follow the reply. -/
def exchange (timestamp : Timestamp) (line : Option Text) (frame : Bytes) (bus : Bus R) :
    Bus R × Answer × Bytes :=
  let (bus, answer) := bus.dispatch frame
  if answer.measurements.isEmpty then (bus, answer, [])
  else
    let bus := bus.refresh line
    (bus, answer, bus.measurements timestamp answer.measurements)

/-- Send the messages that are due at a time. If there are any, a line is taken in first, and all
devices that are due then are recorded as having sent. -/
def tick (timestamp : Timestamp) (now : Nat) (line : Option Text) (bus : Bus R) :
    Bus R × List Nat × Bytes :=
  if (bus.nextDue now).any (· ≤ now) then
    let bus := bus.refresh line
    let due := bus.due now
    (bus.markSent now due, due, bus.measurements timestamp due)
  else (bus, [], [])

/-! ## Breaking off -/

/-- All devices take in the sample of a line, if there is one, `none` where the program breaks
off. -/
def refresh? (line : Option Text) (bus : Bus R) : Option (Bus R) :=
  match line with
  | some line => bus.ingestLine? line
  | none => some bus

/-- Carry out a frame and answer it, `none` where the program breaks off. -/
def exchange? (timestamp : Timestamp) (line : Option Text) (frame : Bytes) (bus : Bus R) :
    Option (Bus R × Answer × Bytes) :=
  let (bus, answer) := bus.dispatch frame
  if answer.measurements.isEmpty then some (bus, answer, [])
  else do
    let bus ← bus.refresh? line
    let data ← bus.render? timestamp answer.measurements
    return (bus, answer, data)

/-- Carry out frames one after the other, `none` where the program breaks off. The line is there for
the first of them. -/
def exchanges? (timestamp : Timestamp) :
    (line : Option Text) → List Bytes → Bus R → Option (Bus R × List (Answer × Bytes))
  | _, [], bus => some (bus, [])
  | line, frame :: rest, bus => do
    let (bus, answer) ← bus.exchange? timestamp line frame
    let (bus, others) ← exchanges? timestamp none rest bus
    return (bus, answer :: others)

/-- Send the messages that are due at a time, `none` where the program breaks off. -/
def tick? (timestamp : Timestamp) (now : Nat) (line : Option Text) (bus : Bus R) :
    Option (Bus R × List Nat × Bytes) :=
  if (bus.nextDue now).any (· ≤ now) then do
    let bus ← bus.refresh? line
    let due := bus.due now
    let data ← bus.render? timestamp due
    return (bus.markSent now due, due, data)
  else some (bus, [], [])

end Bus

end WeatherBus
