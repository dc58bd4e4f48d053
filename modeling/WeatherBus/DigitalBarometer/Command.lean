import WeatherBus.DigitalBarometer.Basic
import WeatherBus.Terminal.Command

/-! # Commands of the digital barometer

* **`DigitalBarometer.Command`** — the commands besides those of every terminal;
* **`DigitalBarometer.Command.keywords`** — their words. -/

namespace WeatherBus

namespace DigitalBarometer

/-- A height that can be set. -/
inductive Height where
  | correction
  | field
  | sea
deriving DecidableEq, Repr

/-- A change of one of the units. -/
inductive UnitUpdate where
  | pressure (unit : PressureUnit)
  | temperature (unit : TemperatureUnit)
deriving DecidableEq, Repr

/-- A change of the settings of the serial line. Fields that are `none` are left alone. -/
structure LineUpdate where
  baud : Option Int := none
  /-- A parity that is not known is `some none`. -/
  parity : Option (Option Parity) := none
  dataBits : Option Int := none
  stopBits : Option Int := none
deriving DecidableEq, Repr

/-- The commands besides those of every terminal. -/
inductive Command where
  | unit (setting : Setting UnitUpdate)
  | line (setting : Setting LineUpdate)
  | echo (setting : Setting Bool)
  | height (which : Height) (setting : Setting Float)
  | averaging (setting : Setting Float)
  | stability (setting : Setting Float)
  /-- Show whether there are errors. -/
  | errors
deriving DecidableEq, Repr

namespace Command

/-- The pressure unit of a label. -/
def pressureUnit? (label : Text) : Option UnitUpdate :=
  (PressureUnit.ofLabel? label).map .pressure

/-- The temperature unit of a label. -/
def temperatureUnit? (label : Text) : Option UnitUpdate :=
  (TemperatureUnit.ofLabel? label).map .temperature

/-- A unit, with the letter of its quantity in front of it or without. -/
def unit? : List Text → Option UnitUpdate
  | [label] => (pressureUnit? label).or (temperatureUnit? label)
  | [quantity, label] =>
    if Text.alike quantity ['P'] then pressureUnit? label
    else if Text.alike quantity ['T'] then temperatureUnit? label
    else none
  | _ => none

/-- A field that counts as 0 if it cannot be read, `none` if it is missing. -/
def field? (params : List Text) (position : Nat) : Option Int :=
  params[position]?.map fun _ => (Parameter.word? params position).getD 0

/-- The settings of the serial line. -/
def line? (params : List Text) : Option LineUpdate :=
  some {
    baud := field? params 0
    parity := params[1]?.map Parity.ofLabel?
    dataBits := field? params 2
    stopBits := field? params 3 }

/-- A switch. -/
def switch? (params : List Text) : Option Bool :=
  params.head?.bind fun word =>
    if Text.alike word "ON".toList then some true
    else if Text.alike word "OFF".toList then some false
    else none

/-- A number, 0 if it cannot be read. -/
def number? (params : List Text) : Option Float := some ((Parameter.number? params 0).getD 0.0)

/-- The keywords, each with the command that it makes of the text behind it. -/
def keywords : List (Text × (Text → Command)) :=
  let setting {α : Type} := @Terminal.Command.setting α
  [("UNIT".toList, fun tail => unit (setting unit? tail)),
   ("SERI".toList, fun tail => line (setting line? tail)),
   ("ECHO".toList, fun tail => echo (setting switch? tail)),
   ("HHCP".toList, fun tail => height .correction (setting number? tail)),
   ("HQFE".toList, fun tail => height .field (setting number? tail)),
   ("HQNH".toList, fun tail => height .sea (setting number? tail)),
   ("AVRG".toList, fun tail => averaging (setting number? tail)),
   ("PSTAB".toList, fun tail => stability (setting number? tail)),
   ("ERRS".toList, fun _ => errors)]

end Command

end DigitalBarometer

end WeatherBus
