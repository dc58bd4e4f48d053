import WeatherBus.Bus.Dispatch
import WeatherBus.Bus.Output
import WeatherBus.Feed

/-! # A running emulator

Two paths work on one bus. The receiver reads the line byte by byte, carries out frames and answers.
The sender sends the measurements that are due. Each step of a path is atomic; between two steps of
one path the other may take any number of its own.

* **`Emulator`** — the bus and all that the two paths share, with the place where each of them
  stands;
* **`Emulator.step?`** — one step of either path, `none` where it cannot be taken;
* **`Emulator.perform`** — several steps, those left out that cannot be taken;
* **`Emulator.attempt`** — the same, up to the step in which the program breaks off. -/

namespace WeatherBus

/-- The two paths of an emulator. -/
inductive Path where
  | receiver
  | sender
deriving DecidableEq, Repr

/-- The name of the thread of a path. -/
def Path.thread : Path → String
  | .receiver => "receive"
  | .sender => "send"

/-- Where the receiver stands. -/
inductive Receiver where
  /-- It waits for the next byte. -/
  | listening
  /-- It needs a sample for the measurements that were asked for. -/
  | answering (addresses : List Nat)
  /-- It has fetched a line of the feed, which may hold no sample. -/
  | sampled (addresses : List Nat) (sample : Option Sample)
  /-- It has stopped, with a failure or because it was told to. -/
  | stopped (failure : Option Failure)
deriving DecidableEq, Repr

/-- Where the sender stands. -/
inductive Sender where
  /-- It is going to look at the schedules. -/
  | checking
  /-- It sleeps, up to a time if there is one. After a signal it is going to wake up. -/
  | parked (wakeAt : Option Nat) (signaled : Bool)
  /-- A device is due, and it needs a sample. -/
  | fetching
  /-- It has fetched a line of the feed, which may hold no sample. -/
  | sampled (sample : Option Sample)
  /-- It has sent measurements, which have to be recorded. -/
  | recording (time : Nat) (addresses : List Nat)
  /-- It has stopped. -/
  | stopped
deriving DecidableEq, Repr

/-- The state of an emulator. -/
structure Emulator (R : Type) where
  /-- The longest frame in bytes. -/
  limit : Nat
  bus : Bus R
  feed : Feed
  /-- What has come in of a frame. -/
  assembler : Assembler
  receiver : Receiver := .listening
  sender : Sender := .checking
  /-- Whether both paths have been told to stop. -/
  shutdown : Bool := false
  /-- What was written, with the path that wrote it, in the order of time. -/
  written : List (Path × Bytes) := []

namespace Emulator

variable {R C : Type} [Instrument R C]

/-- An emulator that has just been started. -/
def start (limit : Nat) (feed : Feed) (bus : Bus R) : Emulator R where
  limit := limit
  bus := bus
  feed := feed
  assembler := .start (Instrument.framing R)

/-- Write to the line. Nothing is written for no bytes. -/
def write (path : Path) (data : Bytes) (e : Emulator R) : Emulator R :=
  if data.isEmpty then e else { e with written := e.written ++ [(path, data)] }

/-- All that a path has written. -/
def writtenBy (path : Path) (e : Emulator R) : Bytes :=
  (e.written.filter fun w => w.1 = path).flatMap Prod.snd

/-- All that was written. -/
def wire (e : Emulator R) : Bytes := e.written.flatMap Prod.snd

/-- Signal the sender, if it sleeps. -/
def notify (e : Emulator R) : Emulator R :=
  match e.sender with
  | .parked wakeAt _ => { e with sender := .parked wakeAt true }
  | _ => e

/-- Tell both paths to stop. -/
def requestShutdown (e : Emulator R) : Emulator R := notify { e with shutdown := true }

/-- Take the next sample off the feed. -/
def fetch (e : Emulator R) : Option Sample × Emulator R :=
  let (line, feed) := e.feed.next
  (line.bind Sample.parse?, { e with feed })

/-- All devices take in a sample, if there is one. -/
def observe (sample : Option Sample) (e : Emulator R) : Emulator R :=
  match sample with
  | some sample => { e with bus := e.bus.observe sample }
  | none => e

/-! ## Steps of the receiver -/

/-- Carry out a frame. A change of a schedule signals the sender in the same step. -/
def carryOut (frame : Bytes) (e : Emulator R) : Emulator R :=
  let (bus, answer) := e.bus.dispatch frame
  let e := write .receiver answer.reply { e with bus }
  let e := if answer.wake then e.notify else e
  if answer.measurements.isEmpty then e else { e with receiver := .answering answer.measurements }

/-- Take a byte off the line, and carry out the frame that it completes. -/
def receive (b : UInt8) (e : Emulator R) : Emulator R :=
  let (assembler, frame) := e.assembler.push e.limit b
  let e := { e with assembler }
  match frame with
  | some frame => e.carryOut frame
  | none => e

/-- Fetch a sample for the measurements of some devices. -/
def fetchAnswer (addresses : List Nat) (e : Emulator R) : Emulator R :=
  let (sample, e) := e.fetch
  { e with receiver := .sampled addresses sample }

/-- Take in the sample and send the measurements of some devices. -/
def sendAnswer (timestamp : Timestamp) (addresses : List Nat) (sample : Option Sample)
    (e : Emulator R) : Emulator R :=
  let e := e.observe sample
  write .receiver (e.bus.measurements timestamp addresses) { e with receiver := .listening }

/-- The line is lost, which stops both paths. -/
def lose (failure : Failure) (e : Emulator R) : Emulator R :=
  requestShutdown { e with receiver := .stopped (some failure) }

/-! ## Steps of the sender -/

/-- Look at the schedules, and sleep if no device is due. -/
def check (now : Nat) (e : Emulator R) : Emulator R :=
  if e.shutdown then { e with sender := .stopped }
  else match e.bus.nextDue now with
    | none => { e with sender := .parked none false }
    | some due =>
      if due ≤ now then { e with sender := .fetching }
      else { e with sender := .parked (some due) false }

/-- Fetch a sample for the measurements that are due. -/
def fetchDue (e : Emulator R) : Emulator R :=
  let (sample, e) := e.fetch
  { e with sender := .sampled sample }

/-- Take in the sample and send the measurements of all devices that are due. -/
def sendDue (now : Nat) (timestamp : Timestamp) (sample : Option Sample) (e : Emulator R) :
    Emulator R :=
  let e := e.observe sample
  let due := e.bus.due now
  write .sender (e.bus.measurements timestamp due) { e with sender := .recording now due }

/-- Record what was sent, for the devices that now have the addresses it was sent from. -/
def record (time : Nat) (addresses : List Nat) (e : Emulator R) : Emulator R :=
  { e with bus := e.bus.markSent time addresses, sender := .checking }

/-! ## Events -/

/-- A step of one of the paths. -/
inductive Event where
  | receive (b : UInt8)
  | fetchAnswer
  | sendAnswer (timestamp : Timestamp)
  | lose (failure : Failure)
  /-- The receiver notices that it has been told to stop. -/
  | stopListening
  | check (now : Nat)
  /-- The sender wakes up, by a signal, in time, or for no reason. -/
  | wake
  | fetchDue
  | sendDue (now : Nat) (timestamp : Timestamp)
  | record
  | requestShutdown
deriving DecidableEq, Repr

-- Splitting this match into its cases takes more depth than the default.
set_option maxRecDepth 4096 in
/-- The state after a step, `none` where the step cannot be taken. -/
def step? (event : Event) (e : Emulator R) : Option (Emulator R) :=
  match event, e.receiver, e.sender with
  | .receive b, .listening, _ => some (e.receive b)
  | .fetchAnswer, .answering addresses, _ => some (e.fetchAnswer addresses)
  | .sendAnswer timestamp, .sampled addresses sample, _ =>
    some (e.sendAnswer timestamp addresses sample)
  | .lose failure, .listening, _ => some (e.lose failure)
  | .stopListening, .listening, _ =>
    if e.shutdown then some { e with receiver := .stopped none } else none
  | .check now, _, .checking => some (e.check now)
  | .wake, _, .parked _ _ => some { e with sender := .checking }
  | .fetchDue, _, .fetching => some e.fetchDue
  | .sendDue now timestamp, _, .sampled sample => some (e.sendDue now timestamp sample)
  | .record, _, .recording time addresses => some (e.record time addresses)
  | .requestShutdown, _, _ => some e.requestShutdown
  | _, _, _ => none

/-- Take several steps, those left out that cannot be taken. -/
def perform (events : List Event) (e : Emulator R) : Emulator R :=
  events.foldl (fun e event => (e.step? event).getD e) e

/-- Some steps come behind others. -/
theorem perform_append (a b : List Event) (e : Emulator R) :
    e.perform (a ++ b) = (e.perform a).perform b := by
  simp [perform]

/-! ## Breaking off -/

/-- Whether the program can go on when devices take in a sample, if there is one, and those at some
addresses send their measurements. -/
def canSend (sample : Option Sample) (addresses : List Nat) (e : Emulator R) : Bool :=
  sample.all e.bus.canObserve && (e.observe sample).bus.canMeasure addresses

/-- The path that breaks off in a step, `none` if the program can go on. -/
def brokenBy? (event : Event) (e : Emulator R) : Option Path :=
  match event, e.receiver, e.sender with
  | .sendAnswer _, .sampled addresses sample, _ =>
    if e.canSend sample addresses then none else some .receiver
  | .sendDue now _, _, .sampled sample =>
    if e.canSend sample ((e.observe sample).bus.due now) then none else some .sender
  | _, _, _ => none

/-- Take several steps, those left out that cannot be taken, up to the one in which a path breaks
off. -/
def attempt : List Event → Emulator R → Except Path (Emulator R)
  | [], e => .ok e
  | event :: rest, e =>
    match e.brokenBy? event with
    | some path => .error path
    | none => attempt rest ((e.step? event).getD e)

/-- What is reached if no path breaks off. -/
theorem perform_of_attempt {events : List Event} {e after : Emulator R}
    (h : e.attempt events = .ok after) : e.perform events = after := by
  induction events generalizing e with
  | nil => exact Except.ok.inj h
  | cons event rest ih =>
    rw [attempt] at h
    split at h
    · exact absurd h (by simp)
    · exact ih h

end Emulator

end WeatherBus
