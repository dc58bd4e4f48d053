import WeatherBus.Bus.Basic
import WeatherBus.Frame.Assembler
import WeatherBus.Request
import WeatherBus.Sample
import WeatherBus.Timestamp

/-! # Kinds of instruments

What a kind of instrument adds to the common handling of frames, addresses and schedules: how its
frames are read, what its commands do to a device, and how its answers are written.

Where a calculation leaves the range of its words, the program breaks off. What a device does is
said by exact calculations, and apart from it when it can do so. -/

namespace WeatherBus

/-- A kind of instrument with registers of type `R` and commands of type `C`. -/
class Instrument (R : Type) (C : outParam Type) where
  /-- How its frames are delimited. -/
  framing : Framing
  /-- Read a frame. -/
  read : Bytes → Except Fault (Request C)
  /-- Whether a device refuses frames without a checksum. -/
  needsChecksum : Device R → Bool := fun _ => false
  /-- The address to which a request is going to move a device. If another device has it, the
  request is refused before it is carried out. -/
  requestedAddress : Request C → Device R → Option Nat := fun _ _ => none
  /-- Carry out a request. A request that fails may have been carried out in part. -/
  apply : Request C → Device R → Device R × Except Fault Outcome
  /-- Take in a sample. -/
  observe : Sample → R → R
  /-- Whether the program can go on when a sample is taken in. -/
  canObserve : Sample → R → Bool := fun _ _ => true
  /-- The bytes of an answer. -/
  encodeReply : Request C → Device R → Text → Bytes
  /-- The bytes of the answer to a fault, `none` if there is no answer. -/
  encodeFault : Request C → Device R → Fault → Option Bytes
  /-- The bytes of a measurement. -/
  measurement : Timestamp → Device R → Bytes
  /-- Whether the program can go on when a measurement is written. -/
  canMeasure : Device R → Bool := fun _ => true

end WeatherBus
