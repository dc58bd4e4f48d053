import WeatherBus.Failure
import WeatherBus.Text.Utf8

/-! # The line to the host

* **`Link.read`** — one turn at a stream: a byte, nothing for now, or the end;
* **`Loopback`** — a line within the program, whose two ends are both at hand. -/

namespace WeatherBus

namespace Link

/-- What a read of one byte from a stream can meet. -/
inductive Event where
  | byte (b : UInt8)
  | timedOut
  | wouldBlock
  | interrupted
  | failed (reason : String)
deriving DecidableEq, Repr

/-- The outcome of a read: a byte, or nothing for now. The end of the stream closes the line. -/
def read : Option Event → Except Failure (Option UInt8)
  | some (.byte b) => .ok (some b)
  | some .timedOut => .ok none
  | some .wouldBlock => .ok none
  | some .interrupted => .ok none
  | some (.failed reason) => .error (.line reason)
  | none => .error .closed

end Link

/-- A line within the program. -/
structure Loopback where
  /-- What the host has sent and the instrument has not read. -/
  incoming : Bytes := []
  /-- What the instrument has sent and the host has not taken. -/
  outgoing : Bytes := []
  closed : Bool := false
deriving DecidableEq, Repr

namespace Loopback

/-- The host sends. -/
def sendFromHost (data : Bytes) (line : Loopback) : Loopback :=
  { line with incoming := line.incoming ++ data }

/-- The instrument reads a byte. A closed line is read up to its end first. -/
def read (line : Loopback) : Except Failure (Option UInt8) × Loopback :=
  match line.incoming with
  | b :: rest => (.ok (some b), { line with incoming := rest })
  | [] => (if line.closed then .error .closed else .ok none, line)

/-- The instrument sends. -/
def write (data : Bytes) (line : Loopback) : Loopback :=
  { line with outgoing := line.outgoing ++ data }

/-- The host takes all that the instrument has sent. -/
def take (line : Loopback) : Bytes × Loopback := (line.outgoing, { line with outgoing := [] })

/-- Close the line. -/
def close (line : Loopback) : Loopback := { line with closed := true }

end Loopback

end WeatherBus
