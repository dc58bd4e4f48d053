import WeatherBus.Number.Binary64
import WeatherBus.Sample

/-! # Registers of the humidity probe

* **`HumidityProbe.observe`** — take in a sample;
* **`HumidityProbe.isHeating`** — whether the probe is heated to keep dew off. -/

namespace WeatherBus

namespace HumidityProbe

/-- The units of all measurements. -/
inductive UnitSystem where
  | metric
  | nonMetric
deriving DecidableEq, Repr

namespace UnitSystem

/-- The units of a letter. -/
def ofLabel? : Text → Option UnitSystem
  | ['M'] | ['m'] => some metric
  | ['N'] | ['n'] => some nonMetric
  | _ => none

/-- The name of the units. -/
def name : UnitSystem → Text
  | metric => "metric".toList
  | nonMetric => "non metric".toList

end UnitSystem

/-- When and how the probe is heated. -/
structure Heating where
  enabled : Bool := false
  /-- The relative humidity from which on it is heated, in percent. -/
  humidityLimit : Nat := 95
  /-- To which temperature it is heated, in degrees Celsius. -/
  temperature : Nat := 100
  /-- For how many seconds it is heated. -/
  time : Nat := 30
deriving DecidableEq, Repr

end HumidityProbe

/-- Settings and samples of a humidity probe, those of its terminal aside. -/
structure HumidityProbe where
  units : HumidityProbe.UnitSystem := .metric
  heating : HumidityProbe.Heating := {}
  /-- The relative humidity in percent. -/
  humidity : Option Float := none
  /-- The temperature in degrees Celsius. -/
  temperature : Option Float := none
  /-- The temperature of a second thermometer in degrees Celsius. -/
  additionalTemperature : Option Float := none
  /-- The pressure in hectopascals. -/
  pressure : Option Float := none
deriving DecidableEq, Repr

namespace HumidityProbe

/-- Take in a sample. Values that it does not name stay as they are. -/
def observe (sample : Sample) (p : HumidityProbe) : HumidityProbe :=
  { p with
    humidity := (sample.number? "RH".toList).or p.humidity
    temperature := (sample.number? ['T']).or p.temperature
    additionalTemperature := (sample.number? "TA".toList).or p.additionalTemperature
    pressure := (sample.number? ['P']).or p.pressure }

/-- Forget all samples. -/
def restart (p : HumidityProbe) : HumidityProbe :=
  { p with
    humidity := none, temperature := none, additionalTemperature := none, pressure := none }

/-- Whether the probe is heated: heating is enabled and the humidity has reached its limit. -/
def isHeating (p : HumidityProbe) : Bool :=
  p.heating.enabled &&
    match p.humidity with
    | some humidity => Float.ofNat p.heating.humidityLimit ≤ humidity
    | none => false

end HumidityProbe

end WeatherBus
