import WeatherBus.Device
import WeatherBus.Number.Decimal
import WeatherBus.Parameter
import WeatherBus.Sample
import WeatherBus.Unit.Distance

/-! # Registers of the lightning detector

* **`LightningDetector.observe`** — count the strikes of a sample and remember the nearest one;
  `LightningDetector.canObserve` says when the counters have room for them;
* **`LightningDetector.status`**, **`LightningDetector.data`** — settings and counters as text. -/

namespace WeatherBus

/-- The strikes since the counters were cleared. -/
structure Strikes where
  /-- Strikes from cloud to ground. -/
  cloudGround : Nat := 0
  /-- Strikes within clouds. -/
  cloudCloud : Nat := 0
  /-- The distance of the nearest strike in kilometres. -/
  nearest : Option Float := none
  /-- The direction of the nearest strike in degrees. -/
  bearing : Option Float := none
deriving DecidableEq, Repr

namespace Strikes

/-- The counters and all their sums have 64 bits. The program breaks off where a sum has more. -/
def limit : Nat := Nat.pow 2 64

/-- All strikes. -/
def total (s : Strikes) : Nat := s.cloudGround + s.cloudCloud

/-- Add strikes to the counters. -/
def count (cloudGround cloudCloud : Nat) (s : Strikes) : Strikes :=
  { s with
    cloudGround := s.cloudGround + cloudGround
    cloudCloud := s.cloudCloud + cloudCloud }

/-- Whether a strike is nearer than the nearest one so far. The first one always is. -/
def isNearer (distance : Float) (s : Strikes) : Bool :=
  match s.nearest with
  | some nearest => distance < nearest
  | none => true

/-- Remember a strike if it is nearer than the nearest one so far. -/
def locate (distance : Float) (bearing : Option Float) (s : Strikes) : Strikes :=
  if s.isNearer distance then { s with nearest := some distance, bearing } else s

end Strikes

/-- Settings and counters of a lightning detector. -/
structure LightningDetector where
  /-- The unit in which distances are sent. -/
  range : DistanceUnit := .kilometre
  /-- Strikes with a smaller amplitude are ignored. -/
  squelch : Nat := 0
  /-- A text that is sent with every message. -/
  message : Text := []
  strikes : Strikes := {}
deriving DecidableEq, Repr

namespace LightningDetector

/-- The model. -/
def model : Text := "TSD-1".toList

/-- The version of the firmware. -/
def firmware : Text := "2.3.1".toList

/-- The largest squelch level. Strikes without an amplitude count as that strong. -/
def maxSquelch : Nat := 15

/-- The number of strikes that a sample names, up to the largest number that a counter holds.
Fractions are dropped; what is no number or negative counts as none. -/
def strikeCount (sample : Sample) (name : String) : Nat :=
  ((sample.number? name.toList).getD 0.0).toUInt64.toNat

/-- Whether the strikes of a sample are too weak to be counted. -/
def ignores (sample : Sample) (d : LightningDetector) : Bool :=
  let amplitude := (sample.number? "AMP".toList).getD (Float.ofNat maxSquelch)
  amplitude < Float.ofNat d.squelch

/-- Count the strikes of a sample, unless they are too weak, and remember the nearest one. -/
def observe (sample : Sample) (d : LightningDetector) : LightningDetector :=
  if d.ignores sample then d
  else
    let cloudGround := strikeCount sample "CG"
    let cloudCloud := strikeCount sample "CC"
    let counted := d.strikes.count cloudGround cloudCloud
    let strikes :=
      if cloudGround + cloudCloud = 0 then counted
      else match sample.number? "DIST".toList with
        | some distance => counted.locate distance (sample.number? "BRG".toList)
        | none => counted
    { d with strikes }

/-- Whether all sums that a sample leads to have room: the two counters, and the sum of its own
strikes, by which it is seen whether there are any. -/
def canObserve (sample : Sample) (d : LightningDetector) : Bool :=
  let cloudGround := strikeCount sample "CG"
  let cloudCloud := strikeCount sample "CC"
  d.ignores sample ||
    (d.strikes.cloudGround + cloudGround < Strikes.limit &&
      d.strikes.cloudCloud + cloudCloud < Strikes.limit &&
      cloudGround + cloudCloud < Strikes.limit)

/-- A text with the message behind it, if there is one. -/
def withMessage (d : LightningDetector) (text : Text) : Text :=
  if d.message.isEmpty then text else text ++ ' ' :: d.message

/-- The word of an output mode. -/
def modeWord : OutputMode → Text
  | .continuous => "CONT".toList
  | .polled => "POLL".toList
  | .stopped => "STOP".toList

/-- The settings as text. -/
def status (schedule : Schedule) (d : LightningDetector) : Text :=
  d.withMessage (Parameter.join
    [modeWord schedule.mode, Numeral.ofNat (schedule.interval / 1000), d.range.label,
      Numeral.ofNat d.squelch])

/-- The place of a value that is not known. -/
def unknownValue : Text := "---".toList

/-- The distance of the nearest strike, with one decimal. -/
def distanceText (d : LightningDetector) : Text :=
  match d.strikes.nearest with
  | some distance => Decimal.fixed 1 (d.range.ofKilometres distance)
  | none => unknownValue

/-- A direction in whole degrees, in three characters. -/
def degrees (bearing : Float) : Text :=
  match Decimal.fixed 0 (Binary64.floorMod bearing 360.0) with
  | '-' :: digits => '-' :: Numeral.zeroFilled 2 digits
  | digits => Numeral.zeroFilled 3 digits

/-- The direction of the nearest strike. -/
def bearingText (d : LightningDetector) : Text :=
  match d.strikes.bearing with
  | some bearing => degrees bearing
  | none => unknownValue

/-- The counters as text. -/
def data (d : LightningDetector) : Text :=
  d.withMessage (Parameter.join
    ["DATA".toList, Numeral.ofNat d.strikes.total, Numeral.ofNat d.strikes.cloudGround,
      Numeral.ofNat d.strikes.cloudCloud, d.distanceText, d.bearingText])

/-- Whether the sum of the counters has room, which is a part of the text. -/
def canMeasure (d : LightningDetector) : Bool := d.strikes.total < Strikes.limit

end LightningDetector

end WeatherBus
