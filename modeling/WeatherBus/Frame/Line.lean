import WeatherBus.Fault
import WeatherBus.Text.Utf8

/-! # Lines

A line is a run of bytes that ends at CR or LF. It may carry an address in front (`05:`) and a
checksum at its end (`*2D`).

* **`LineFramer.push`** — take one byte; a line longer than the limit is dropped as a whole;
* **`Line.splitAddress`**, **`Line.splitChecksum`** — take the two decorations off a line. -/

namespace WeatherBus

/-- The bytes at which a line ends: CR and LF. -/
def isLineEnd (b : UInt8) : Bool := b == 0x0D || b == 0x0A

/-- What is known of the line that is coming in. -/
inductive LineFramer where
  /-- Its bytes so far. -/
  | collecting (line : Bytes)
  /-- It is too long, the rest of it is skipped. -/
  | skipping
deriving DecidableEq, Repr

namespace LineFramer

/-- Nothing of a line has come in. -/
def start : LineFramer := .collecting []

/-- Take one byte and hand out the line that it completes. Empty lines are not handed out. -/
def push (limit : Nat) (b : UInt8) : LineFramer → LineFramer × Option Bytes
  | .skipping => (if isLineEnd b then start else .skipping, none)
  | .collecting line =>
    if isLineEnd b then (start, if line.isEmpty then none else some line)
    else if limit ≤ line.length then (.skipping, none)
    else (.collecting (line ++ [b]), none)

end LineFramer

namespace Line

/-- The address in front of a line, decimal digits followed by a colon, and the rest of the line. A
line without such a front has no address. The address has to fit into 32 bits. -/
def splitAddress (line : Text) : Except Fault (Option Nat × Text) :=
  let digits := line.takeWhile Char.isDigit
  match digits, line.dropWhile Char.isDigit with
  | _ :: _, ':' :: rest =>
    match Numeral.word32? digits with
    | some address => .ok (some address, rest)
    | none => .error (.malformedFrame s!"address too long: {String.ofList line}")
  | _, _ => .ok (none, line)

/-- The text in front of the last `marker`, and the text behind it if there is one. -/
def splitChecksum (marker : Char) (line : Text) : Text × Option Text :=
  match splitLast? (· == marker) line with
  | some (body, field) => (body, some field)
  | none => (line, none)

end Line

end WeatherBus
