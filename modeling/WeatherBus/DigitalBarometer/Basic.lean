import WeatherBus.Number.Binary64
import WeatherBus.Recent
import WeatherBus.Sample
import WeatherBus.Unit.Pressure
import WeatherBus.Unit.Temperature

/-! # Registers of the digital barometer

The barometer has three pressure modules, each with a thermometer.

* **`DigitalBarometer.observe`** — take in a sample;
* **`DigitalBarometer.modulePressures`** — the mean pressure of each module over the averaging
  time. -/

namespace WeatherBus

namespace DigitalBarometer

/-- One of the three modules. -/
inductive Module where
  | first
  | second
  | third
deriving DecidableEq, Repr

/-- One value for each module. -/
structure Modules (α : Type) where
  first : α
  second : α
  third : α
deriving DecidableEq, Repr

namespace Modules

/-- The value of a module. -/
def get {α : Type} (m : Module) (v : Modules α) : α :=
  match m with
  | .first => v.first
  | .second => v.second
  | .third => v.third

/-- All values, from the first module to the third. -/
def toList {α : Type} (v : Modules α) : List α := [v.first, v.second, v.third]

/-- The values of a function of the module. -/
def of {α : Type} (f : Module → α) : Modules α := ⟨f .first, f .second, f .third⟩

/-- No module has a value. -/
def unknown {α : Type} : Modules (Option α) := ⟨none, none, none⟩

/-- The new values, and the old one where there is no new one. -/
def update {α : Type} (new old : Modules (Option α)) : Modules (Option α) :=
  of fun m => (new.get m).or (old.get m)

end Modules

/-- The parity of the serial line. -/
inductive Parity where
  | none
  | even
  | odd
deriving DecidableEq, Repr

namespace Parity

/-- The letter of a parity. -/
def letter : Parity → Char
  | none => 'N'
  | even => 'E'
  | odd => 'O'

/-- The parity of a letter, its case and blanks around it aside. -/
def ofLabel? (t : Text) : Option Parity :=
  match Text.upper (Text.trim t) with
  | ['N'] => some none
  | ['E'] => some even
  | ['O'] => some odd
  | _ => Option.none

end Parity

/-- The settings of the serial line, kept but without effect. -/
structure LineSettings where
  baud : Nat := 4800
  parity : Parity := .even
  dataBits : Nat := 7
  stopBits : Nat := 1
deriving DecidableEq, Repr

/-- The settings as text. -/
def LineSettings.render (s : LineSettings) : Text :=
  Numeral.ofNat s.baud ++ ' ' :: s.parity.letter :: ' ' :: Numeral.ofNat s.dataBits ++
    ' ' :: Numeral.ofNat s.stopBits

end DigitalBarometer

/-- Settings and samples of a digital barometer, those of its terminal aside. -/
structure DigitalBarometer where
  pressureUnit : PressureUnit := .hectopascal
  temperatureUnit : TemperatureUnit := .celsius
  line : DigitalBarometer.LineSettings := {}
  /-- Whether commands are repeated in front of their answers. -/
  echo : Bool := false
  /-- The height of the modules above the point for which the pressure is corrected, in metres. -/
  correctionHeight : Float := 0.0
  /-- The height of the modules above the field, in metres. -/
  fieldHeight : Float := 0.0
  /-- The height of the modules above the sea, in metres. -/
  seaHeight : Float := 0.0
  /-- The averaging time in seconds, one sample for each. -/
  averaging : Float := 1.0
  /-- By how much the modules of a stable barometer differ at most, in hectopascals. -/
  stabilityLimit : Float := 0.5
  /-- Pressures in hectopascals, the newest ones first. -/
  samples : List (DigitalBarometer.Modules (Option Float)) := []
  /-- Temperatures in degrees Celsius. -/
  temperatures : DigitalBarometer.Modules (Option Float) := .unknown
  /-- The change of the pressure within three hours. -/
  tendency : Option Float := none
  /-- The code of its course. -/
  tendencyCode : Option Nat := none
deriving DecidableEq, Repr

namespace DigitalBarometer

/-- The longest averaging time, and the number of samples that are kept. -/
def maxAveraging : Nat := 600

/-- The code of a tendency, its fraction dropped, if there is such a code. -/
def tendencyCode? (x : Float) : Option Nat :=
  let n := x.toInt64.toInt
  if 0 ≤ n ∧ n ≤ 8 then some n.toNat else none

/-- The pressures of a sample. The first module also goes by the name without its number. -/
def pressuresOf (sample : Sample) : Modules (Option Float) where
  first := (sample.number? "P1".toList).or (sample.number? ['P'])
  second := sample.number? "P2".toList
  third := sample.number? "P3".toList

/-- The temperatures of a sample. The first module also goes by the name without its number. -/
def temperaturesOf (sample : Sample) : Modules (Option Float) where
  first := (sample.number? "TP1".toList).or (sample.number? ['T'])
  second := sample.number? "TP2".toList
  third := sample.number? "TP3".toList

/-- Take in a sample. A sample without any pressure is not counted as one. -/
def observe (sample : Sample) (b : DigitalBarometer) : DigitalBarometer :=
  let pressures := pressuresOf sample
  { b with
    samples :=
      if pressures.toList.any Option.isSome then Recent.push maxAveraging pressures b.samples
      else b.samples
    temperatures := (temperaturesOf sample).update b.temperatures
    tendency := (sample.number? "P3H".toList).or b.tendency
    tendencyCode := match sample.number? "A3H".toList with
      | some x => tendencyCode? x
      | none => b.tendencyCode }

/-- How many samples make up a pressure. -/
def window (b : DigitalBarometer) : Nat := max (Binary64.roundUp b.averaging) 1

/-- The mean pressure of each module over the averaging time, `none` without a sample. -/
def modulePressures (b : DigitalBarometer) : Modules (Option Float) :=
  Modules.of fun m => Binary64.mean? ((b.samples.take b.window).filterMap (Modules.get m))

/-- Forget all samples. -/
def restart (b : DigitalBarometer) : DigitalBarometer :=
  { b with samples := [], temperatures := .unknown, tendency := none, tendencyCode := none }

end DigitalBarometer

end WeatherBus
