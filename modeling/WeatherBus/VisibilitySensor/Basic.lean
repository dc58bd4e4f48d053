import WeatherBus.Number.Decimal
import WeatherBus.Recent
import WeatherBus.Sample
import WeatherBus.Unit.Distance
import WeatherBus.VisibilitySensor.Settings

/-! # Registers of the visibility sensor

* **`VisibilitySensor.visibility?`** — the mean of the newest samples, calibrated, in the chosen
  unit;
* **`VisibilitySensor.observe`** — take in a sample;
* **`VisibilitySensor.data`** — a measurement as text, `//` in place of what is not known. -/

namespace WeatherBus

/-- Settings and observations of a visibility sensor. -/
structure VisibilitySensor where
  /-- The settings in force. -/
  active : VisibilitySensor.Settings := {}
  /-- The settings that a reset brings back. -/
  committed : VisibilitySensor.Settings := {}
  /-- The address that a reset brings back. -/
  committedId : Nat
  /-- The fields of a custom message, one bit for each. -/
  mask : Nat := 15
  /-- The calibration of the window contamination. -/
  zero : Float := 0.0
  /-- The calibration of the visibility. -/
  span : Float := 1.0
  /-- Visibilities in metres, the newest one first. -/
  visibilities : List Float := []
  weatherCode : Option Nat := none
  report : Option Text := none
  temperature : Option Float := none
  intensity : Option Float := none
  amount : Option Float := none
  luminance : Option Float := none
  /-- Contamination of the window in percent, not calibrated. -/
  rawContamination : Option Float := none
deriving DecidableEq, Repr

namespace VisibilitySensor

/-- How many visibilities are kept. -/
def capacity : Nat := 10

/-- Take in a sample. Values that it does not name stay as they are. -/
def observe (sample : Sample) (s : VisibilitySensor) : VisibilitySensor :=
  { s with
    visibilities := match sample.number? "VIS".toList with
      | some v => Recent.push capacity v s.visibilities
      | none => s.visibilities
    weatherCode := ((sample.number? "WX".toList).map fun code =>
      (Binary64.clamp 0.0 99.0 code).toUInt8.toNat).or s.weatherCode
    report := (sample.text? "METAR".toList).or s.report
    temperature := (sample.number? ['T']).or s.temperature
    intensity := (sample.number? "PR".toList).or s.intensity
    amount := (sample.number? "PA".toList).or s.amount
    luminance := (sample.number? "LUM".toList).or s.luminance
    rawContamination := (sample.number? "WIN".toList).or s.rawContamination }

/-- The visibility in the chosen unit, `none` without a sample. -/
def visibility? (s : VisibilitySensor) : Option Float :=
  (Binary64.mean? (s.visibilities.take s.active.averaging)).map fun mean =>
    let metres := mean * s.span
    match s.active.unit with
    | .metre => metres
    | .foot => feetOfMetres metres

/-- The calibrated contamination of the window in percent. -/
def contamination? (s : VisibilitySensor) : Option Float :=
  s.rawContamination.map fun c => Binary64.clamp 0.0 100.0 (c + s.zero)

/-- The contamination from which on there is a warning. -/
def contaminationWarning : Float := 50.0

/-- 0 if all is well, 1 with a warning, 2 without a visibility. -/
def status (s : VisibilitySensor) : Nat :=
  if s.visibility?.isNone then 2
  else match s.contamination? with
    | some c => if contaminationWarning ≤ c then 1 else 0
    | none => 0

/-! ## Messages -/

/-- In place of a value that is not known. -/
def unknownValue : Text := "//".toList

/-- A number with a fixed number of decimals. -/
def numberField (decimals : Nat) (value : Option Float) : Text :=
  (value.map (Decimal.fixed decimals)).getD unknownValue

/-- Whether a character is one of the control characters of the basic alphabet. -/
def isControl (c : Char) : Bool := c.toNat < 0x20 || c.toNat == 0x7F

/-- A text without the characters that would end its field or the block. -/
def textField (value : Text) : Text := value.map fun c => if c = ':' || isControl c then '_' else c

/-- The fields of a message, in their order. -/
def fields (s : VisibilitySensor) : List Text :=
  [numberField 0 s.visibility?,
   (s.weatherCode.map (Numeral.zeroPadded 2)).getD unknownValue,
   (s.report.map textField).getD unknownValue,
   numberField 1 s.temperature,
   numberField 2 s.intensity,
   numberField 2 s.amount,
   numberField 0 s.luminance,
   numberField 0 s.contamination?,
   Numeral.ofNat s.status]

/-- One bit for each field that there is. -/
def allFields : Nat := 0x1FF

/-- The fields of a standard message. -/
def standardFields : Nat := 0xF

/-- The fields that the settings ask for. -/
def chosenFields (s : VisibilitySensor) : Nat :=
  match s.active.format with
  | .standard => standardFields
  | .custom => s.mask

/-- A measurement as text. -/
def data (id : Nat) (s : VisibilitySensor) : Text :=
  let chosen := s.fields.zipIdx.filter fun (_, bit) => s.chosenFields.testBit bit
  List.intercalate [':'] ("DATA".toList :: Numeral.ofNat id :: chosen.map Prod.fst)

end VisibilitySensor

end WeatherBus
