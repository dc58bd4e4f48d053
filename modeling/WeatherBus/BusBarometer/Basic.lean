import WeatherBus.BusBarometer.Format
import WeatherBus.Recent
import WeatherBus.Sample

/-! # Registers of the bus barometer

* **`BusBarometer.pressure?`** — the mean of the newest samples, calibrated;
* **`BusBarometer.observe`** — take in a sample;
* **`BusBarometer.autoSendReport`** — number of the format and interval as text. -/

namespace WeatherBus

/-- Settings and samples of a bus barometer. -/
structure BusBarometer where
  /-- The number of the format of its measurements. -/
  format : Nat := 1
  /-- The interval in hundredths of a second. -/
  interval : Nat := 0
  /-- The position of the unit among those that can be chosen. -/
  unitCode : Nat := 0
  /-- How many samples make up a pressure. No sample counts as one. -/
  filter : Nat := 0
  /-- Whether lines carry a checksum. -/
  checked : Bool := false
  /-- Added to a pressure. -/
  offset : Float := 0.0
  /-- Multiplied with a pressure. -/
  gain : Float := 1.0
  /-- Pressures in hectopascals, the newest one first. -/
  pressures : List Float := []
  temperature : Option Float := none
deriving DecidableEq, Repr

namespace BusBarometer

/-- The units by their codes. -/
def units : List PressureUnit :=
  [.hectopascal, .millibar, .inchOfMercury, .millimetreOfMercury, .kilopascal,
    .poundPerSquareInch]

/-- The largest number of samples that make up a pressure, and the number that is kept. -/
def maxFilter : Nat := 99

/-- The chosen unit. -/
def unit (b : BusBarometer) : PressureUnit := units[b.unitCode]?.getD .hectopascal

/-- Take in a sample. Values that it does not name stay as they are. -/
def observe (sample : Sample) (b : BusBarometer) : BusBarometer :=
  { b with
    pressures := match sample.number? ['P'] with
      | some p => Recent.push maxFilter p b.pressures
      | none => b.pressures
    temperature := (sample.number? ['T']).or b.temperature }

/-- The calibrated mean of the newest samples, `none` without a sample. -/
def pressure? (b : BusBarometer) : Option Float :=
  (Binary64.mean? (b.pressures.take (max b.filter 1))).map fun mean => mean * b.gain + b.offset

/-- What a measurement shows. -/
def reading (timestamp : Timestamp) (serial : Text) (b : BusBarometer) : Reading where
  pressure := b.pressure?
  temperature := b.temperature
  unit := b.unit
  serial := serial
  timestamp := timestamp

/-- Hundredths of a second as seconds, with as many decimals as they need. -/
def seconds (hundredths : Nat) : Text :=
  Decimal.positional hundredths (-2)

/-- The number of the format and the interval. -/
def autoSendReport (b : BusBarometer) : Text :=
  Numeral.ofNat b.format ++ ',' :: seconds b.interval

end BusBarometer

end WeatherBus
