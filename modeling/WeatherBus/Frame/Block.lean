import WeatherBus.Fault
import WeatherBus.Text.Utf8

/-! # Blocks

A block starts at STX and ends at ETX. Its last field is a checksum of everything between STX and
that field.

* **`BlockFramer.push`** — take one byte; a second STX starts the block anew, a block longer than
  the limit is dropped;
* **`Block.extract`** — payload, checksum field and the bytes that the checksum covers;
* **`Block.build`** — the block of a payload. -/

namespace WeatherBus

/-- The byte that starts a block. -/
def stx : UInt8 := 0x02

/-- The byte that ends a block. -/
def etx : UInt8 := 0x03

/-- What is known of the block that is coming in. -/
inductive BlockFramer where
  /-- Bytes outside of a block are skipped. -/
  | outside
  /-- The bytes of the block so far, the STX included. -/
  | inside (block : Bytes)
deriving DecidableEq, Repr

namespace BlockFramer

/-- No block has started. -/
def start : BlockFramer := .outside

/-- Take one byte and hand out the block that it completes, both delimiters included. -/
def push (limit : Nat) (b : UInt8) (framer : BlockFramer) : BlockFramer × Option Bytes :=
  if b = stx then (.inside [stx], none)
  else match framer with
    | .outside => (.outside, none)
    | .inside block =>
      if limit ≤ block.length then (.outside, none)
      else if b = etx then (.outside, some (block ++ [b]))
      else (.inside (block ++ [b]), none)

end BlockFramer

/-- The parts of a block. -/
structure Block where
  /-- What the block says. -/
  payload : Text
  /-- The bytes that the checksum covers: the payload and the separator behind it. -/
  covered : Bytes
  /-- The field that holds the checksum. -/
  checksumField : Text
deriving DecidableEq, Repr

namespace Block

/-- The bytes strictly between the first STX and the first ETX behind it. -/
def inner (raw : Bytes) : Except Fault Bytes :=
  match raw.dropWhile (· ≠ stx) with
  | [] => .error (.malformedFrame "missing STX")
  | _ :: rest =>
    if rest.contains etx then .ok (rest.takeWhile (· ≠ etx))
    else .error (.malformedFrame "missing ETX")

/-- A list without its last element, if that is the separator. -/
def dropTrailer (separator : UInt8) (bytes : Bytes) : Bytes :=
  if bytes.getLast? = some separator then bytes.dropLast else bytes

/-- The parts of a block whose fields end at `separator`. A separator behind the checksum field may
be left out. -/
def extract (separator : UInt8) (raw : Bytes) : Except Fault Block := do
  let bytes := dropTrailer separator (← inner raw)
  match splitLast? (· == separator) bytes with
  | none => .error (.malformedFrame "missing CRC separator")
  | some (front, back) =>
    match Utf8.decode? front, Utf8.decode? back with
    | none, _ => .error (.malformedFrame "payload is not valid text")
    | _, none => .error (.malformedFrame "CRC field is not valid text")
    | some payload, some field =>
      .ok { payload, covered := front ++ [separator], checksumField := field }

/-- The checksum that a block carries. -/
def received (block : Block) : Except Fault Nat :=
  match Numeral.hexField? 4 block.checksumField with
  | some checksum => .ok checksum
  | none => .error (.malformedFrame s!"bad CRC: {String.ofList block.checksumField}")

/-- The block of a payload with a checksum of four digits, and with `trailer` behind it. -/
def build (separator : UInt8) (trailer : Option UInt8) (payload : Text) (checksum : Nat) : Bytes :=
  stx :: Utf8.encode payload ++ separator :: Utf8.encode (Numeral.hex 4 checksum) ++
    trailer.toList ++ [etx]

end Block

end WeatherBus
