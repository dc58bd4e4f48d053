import WeatherBus.Number.Integer

/-! # The exact value of a double

A finite double is `± m · 2 ^ e` with whole `m` and `e`, so that its digits can be found by exact
arithmetic on whole numbers.

* **`Binary64.parts`** — a double as sign, `m` and `e`, or as one of the values that are no number;
* **`Binary64.roundUp`** — the nearest whole number, halves away from zero;
* **`Binary64.floorMod`** — the exact remainder in the range from zero up to the divisor;
* **`Binary64.sum`** — the sum of a list, from its front to its end. -/

namespace WeatherBus

namespace Binary64

/-- What a double stands for. A finite one is `m · 2 ^ e`, negated if `negative`. -/
inductive Parts where
  | notANumber
  | infinite (negative : Bool)
  | finite (negative : Bool) (m : Nat) (e : Int)
deriving DecidableEq, Repr

/-- Read a double off its bits: sign, 11 bits of exponent, and 52 bits behind the binary point. -/
def parts (x : Float) : Parts :=
  let bits := x.toBits.toNat
  let negative := bits / Nat.pow 2 63 == 1
  let exponent := bits / Nat.pow 2 52 % Nat.pow 2 11
  let fraction := bits % Nat.pow 2 52
  if exponent = Nat.pow 2 11 - 1 then
    if fraction = 0 then .infinite negative else .notANumber
  else if exponent = 0 then .finite negative fraction (-1074)
  else .finite negative (Nat.pow 2 52 + fraction) (Int.ofNat exponent - 1075)

/-- The double nearest to a whole number. -/
def ofInt : Int → Float
  | .ofNat n => Float.ofScientific n false 0
  | .negSucc n => -Float.ofScientific (n + 1) false 0

/-- The exact value `m · 2 ^ e`, where it is a double. -/
def ofDyadic (negative : Bool) (m : Nat) (e : Int) : Float :=
  let magnitude :=
    if 0 ≤ e then Float.ofScientific (m * Nat.pow 2 e.toNat) false 0
    else Float.ofScientific (m * Nat.pow 5 (-e).toNat) true (-e).toNat
  if negative then -magnitude else magnitude

/-- The whole number nearest to a double that is not negative, halves upwards. All else gives 0. -/
def roundUp (x : Float) : Nat :=
  match parts x with
  | .finite false m e =>
    if 0 ≤ e then m * Nat.pow 2 e.toNat
    else
      let unit := Nat.pow 2 (-e).toNat
      (2 * m + unit) / (2 * unit)
  | _ => 0

/-- The remainder of a division that cuts the quotient off towards zero. It is exact and has the
sign of the dividend. -/
def remainder (x y : Float) : Float :=
  match parts x, parts y with
  | .finite negative m e, .finite _ n f =>
    if n = 0 then 0.0 / 0.0
    else
      let low := min e f
      let r := (m * Nat.pow 2 (e - low).toNat) % (n * Nat.pow 2 (f - low).toNat)
      ofDyadic negative r low
  | .finite _ _ _, .infinite _ => x
  | _, _ => 0.0 / 0.0

/-- The remainder moved into the range from zero up to the divisor, by one rounded addition. -/
def floorMod (x y : Float) : Float :=
  let r := remainder x y
  if r < 0.0 then r + y.abs else r

/-- The sum of a list from its front to its end. It starts at negative zero, the neutral element of
the addition. -/
def sum (xs : List Float) : Float := xs.foldl (· + ·) (-0.0)

/-- The mean of a list, `none` for the empty one. -/
def mean? (xs : List Float) : Option Float :=
  if xs.isEmpty then none else some (sum xs / Float.ofNat xs.length)

/-- Whether `low ≤ x ≤ high`. What is no number lies in no range. -/
def inRange (low high x : Float) : Bool := low ≤ x && x ≤ high

/-- The nearest value in the range from `low` to `high`. What is no number stays so. -/
def clamp (low high x : Float) : Float :=
  if x < low then low else if high < x then high else x

end Binary64

end WeatherBus
