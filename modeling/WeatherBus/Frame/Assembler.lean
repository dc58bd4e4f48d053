import WeatherBus.Frame.Line
import WeatherBus.Frame.Block

/-! # Cutting a byte stream into frames

* **`Framing`** — the two ways in which frames are delimited;
* **`Assembler.push`** — take one byte and hand out the frame that it completes;
* **`Assembler.run`** — all frames of a stream, each with the position of its last byte. -/

namespace WeatherBus

/-- How frames are delimited. -/
inductive Framing where
  /-- By CR or LF at their end. -/
  | line
  /-- By STX and ETX. -/
  | block
deriving DecidableEq, Repr

/-- What has come in of a frame. -/
inductive Assembler where
  | line (framer : LineFramer)
  | block (framer : BlockFramer)
deriving DecidableEq, Repr

namespace Assembler

/-- Nothing has come in. -/
def start : Framing → Assembler
  | .line => .line LineFramer.start
  | .block => .block BlockFramer.start

/-- Take one byte and hand out the frame that it completes. -/
def push (limit : Nat) (b : UInt8) : Assembler → Assembler × Option Bytes
  | .line framer =>
    let (next, frame) := framer.push limit b
    (.line next, frame)
  | .block framer =>
    let (next, frame) := framer.push limit b
    (.block next, frame)

/-- Take a run of bytes. The frames come with the position of the byte that completes them, counted
from `position`. -/
def run (limit : Nat) : (position : Nat) → Bytes → Assembler → Assembler × List (Nat × Bytes)
  | _, [], assembler => (assembler, [])
  | position, b :: rest, assembler =>
    let (next, frame) := assembler.push limit b
    let (last, frames) := run limit (position + 1) rest next
    (last, (frame.map (position, ·)).toList ++ frames)

/-- The frames of a run of bytes. -/
def frames (limit : Nat) (bytes : Bytes) (assembler : Assembler) : Assembler × List Bytes :=
  let (last, frames) := assembler.run limit 0 bytes
  (last, frames.map Prod.snd)

end Assembler

end WeatherBus
