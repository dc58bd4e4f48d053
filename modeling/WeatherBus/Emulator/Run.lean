import WeatherBus.Emulator.Basic
import WeatherBus.Link

/-! # Runs of an emulator

Runs in which the two paths take turns. If a path breaks off, so does the run.

* **`Emulator.serve`** — work off bytes of the host;
* **`Emulator.sendUntil`** — send what is due up to a time;
* **`Emulator.finish`** — the line is closed, or the emulator is told to stop;
* **`Emulator.converse`** — a whole run on a host whose bytes are known;
* **`Emulator.hear`**, **`Emulator.elapse`** — a run step by step, as the line and the clock drive
  it. -/

namespace WeatherBus

namespace Emulator

variable {R C : Type} [Instrument R C]

/-- An emulator whose sender has looked at the schedules for the first time. -/
def begin (limit : Nat) (feed : Feed) (bus : Bus R) : Emulator R :=
  (start limit feed bus).perform [.check 0]

/-- The steps that work off one byte. -/
def answerEvents (timestamp : Timestamp) (b : UInt8) : List Event :=
  [.receive b, .fetchAnswer, .sendAnswer timestamp]

/-- Work off bytes of the host. -/
def serve (timestamp : Timestamp) (bytes : Bytes) (e : Emulator R) : Except Path (Emulator R) :=
  e.attempt (bytes.flatMap (answerEvents timestamp))

/-- The steps of the sender at one time: it wakes up, and sends if a device is due. -/
def cycleEvents (timestamp : Timestamp) (now : Nat) : List Event :=
  [.wake, .check now, .fetchDue, .sendDue now timestamp, .record]

/-- One turn of the sender. -/
def cycle (timestamp : Timestamp) (now : Nat) (e : Emulator R) : Except Path (Emulator R) :=
  e.attempt (cycleEvents timestamp now)

/-- Several turns of the sender at one time. -/
def cycles (timestamp : Timestamp) (now : Nat) :
    (count : Nat) → Emulator R → Except Path (Emulator R)
  | 0, e => .ok e
  | count + 1, e => do cycles timestamp now count (← e.cycle timestamp now)

/-- Send what is due from `now` up to, but not at, a time. The remaining time shrinks by at least
one with every turn. -/
def sendUntil (timestamp : Timestamp) (deadline now : Nat) (e : Emulator R) :
    Except Path (Emulator R) :=
  match e.bus.nextDue now with
  | none => .ok e
  | some due =>
    let at_ := max due now
    if at_ < deadline then do
      sendUntil timestamp deadline (at_ + 1) (← e.cycle timestamp at_)
    else .ok e
termination_by deadline - now
decreasing_by omega

/-- How a run ends. -/
inductive Ending where
  /-- The line is closed. -/
  | closeLine
  /-- The emulator is told to stop. -/
  | shutDown
deriving DecidableEq, Repr

/-- End a run: both paths stop. -/
def finish (ending : Ending) (e : Emulator R) : Emulator R :=
  match ending with
  | .closeLine => e.perform [.lose .closed, .wake, .check 0]
  | .shutDown => e.perform [.requestShutdown, .stopListening, .wake, .check 0]

/-- A whole run: the host sends some bytes, and then it either closes the line, or keeps it open
until the emulator is told to stop at a time. -/
def converse (timestamp : Timestamp) (host : Bytes) (stopAt : Option Nat) (e : Emulator R) :
    Except Path (Emulator R) := do
  let served ← e.serve timestamp host
  match stopAt with
  | some time => return (← served.sendUntil timestamp time 0).finish .shutDown
  | none => return served.finish .closeLine

/-! ## Step by step -/

/-- A turn at the line, as the read of one byte from it came out. -/
def hear (timestamp : Timestamp) (event : Option Link.Event) (e : Emulator R) :
    Except Path (Emulator R) :=
  match Link.read event with
  | .ok (some b) => e.serve timestamp [b]
  | .ok none => .ok e
  | .error failure => .ok (e.perform [.lose failure, .wake, .check 0])

/-- A turn at the clock: the run ends if its time is over, and else the sender sends what is due. -/
def elapse (timestamp : Timestamp) (stopAt : Option Nat) (now : Nat) (e : Emulator R) :
    Except Path (Emulator R) :=
  if stopAt.any (· ≤ now) then .ok (e.finish .shutDown)
  else if (e.bus.nextDue now).any (· ≤ now) then e.cycle timestamp now
  else .ok e

/-- For how long the clock brings nothing, `none` if it never will. -/
def quiet? (stopAt : Option Nat) (now : Nat) (e : Emulator R) : Option Nat :=
  ((e.bus.nextDue now).toList ++ stopAt.toList).min?.map (· - now)

/-- What waits to go out on the line, and the emulator after it has gone out. -/
def takeWritten (e : Emulator R) : Bytes × Emulator R := (e.wire, { e with written := [] })

/-- The failure, if any, with which a run has ended. -/
def failure? (e : Emulator R) : Option Failure :=
  match e.receiver with
  | .stopped failure => failure
  | _ => none

/-- Whether a run has ended. -/
def hasEnded (e : Emulator R) : Bool :=
  match e.receiver with
  | .stopped _ => true
  | _ => false

end Emulator

end WeatherBus
