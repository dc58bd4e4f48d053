import WeatherBus.Number.Decimal

/-! # Why a frame or a command is refused

A `Fault` is the cause; its wording is in one place, `Fault.message`. None of them stops an
instrument: it answers with the error reply of its kind, if it has one, and waits for the next
frame. -/

namespace WeatherBus

/-- The cause for which a frame or a command is refused. -/
inductive Fault where
  /-- A delimiter, an address or a checksum field is missing or cannot be read. -/
  | malformedFrame (reason : String)
  /-- The checksum is missing or does not match. -/
  | checksumMismatch (received calculated : Option Nat)
  /-- The kind of instrument has no such command. -/
  | unknownCommand (word : String)
  /-- A parameter failed its range check. -/
  | outOfRange (parameter : String) (value low high : Float)
  /-- A parameter cannot be read at all. -/
  | invalidParameter (reason : String)
  /-- No device may have, or none has, this address. -/
  | addressOutOfRange (address : Nat)
  /-- Another device already has this address. -/
  | addressInUse (address : Nat)
  /-- A mask sets bits outside of the allowed ones. -/
  | reservedBits (mask allowed : Nat)
  /-- A protected command came with the wrong PIN. -/
  | accessDenied
deriving DecidableEq, Repr

namespace Fault

/-- How a checksum that may be missing is named in a message. -/
def optional : Option Nat → String
  | none => "None"
  | some n => s!"Some({n})"

/-- A mask as it is named in a message, in small hexadecimal digits. -/
def mask (n : Nat) : String := "0x" ++ String.ofList (Nat.toDigits 16 n)

/-- A number as it is named in a message. -/
def number (x : Float) : String := String.ofList (Decimal.shortest x)

/-- The wording of a fault. -/
def message : Fault → String
  | .malformedFrame reason => s!"Malformed frame: {reason}"
  | .checksumMismatch received calculated =>
    s!"Checksum mismatch: received {optional received}, calculated {optional calculated}"
  | .unknownCommand word => s!"Unknown command: {word}"
  | .outOfRange parameter value low high =>
    s!"Parameter {parameter} with value {number value} is out of range. " ++
      s!"Allowed range is [{number low}, {number high}]"
  | .invalidParameter reason => s!"Invalid parameter: {reason}"
  | .addressOutOfRange address => s!"Address {address} is out of range or not present on the bus"
  | .addressInUse address => s!"Address {address} is already in use"
  | .reservedBits bits allowed =>
    s!"Bitmask {mask bits} sets reserved bits. Allowed bits are {mask allowed}"
  | .accessDenied => "Access denied, wrong PIN"

/-- A whole number outside of a range of whole numbers. -/
def outOfWholeRange (parameter : String) (value low high : Int) : Fault :=
  .outOfRange parameter (Binary64.ofInt value) (Binary64.ofInt low) (Binary64.ofInt high)

/-- The first fault that a sequence of checks has found. -/
def first? (checks : List (Option Fault)) : Option Fault := checks.findSome? id

end Fault

end WeatherBus
