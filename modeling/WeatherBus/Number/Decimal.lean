import WeatherBus.Number.Binary64
import WeatherBus.Number.Rounding

/-! # Doubles as decimal text

Two notations, both positional and without exponent:

* **`Decimal.shortest`** — the fewest digits that are read back as the same double, of those the
  nearest to it;
* **`Decimal.fixed`** — the exact value rounded to a number of decimals, halves to the even digit.

Both write `NaN`, `inf` and `-inf` for what has no digits, and keep the sign of a negative zero. -/

namespace WeatherBus

namespace Decimal

/-! ## The shortest digits -/

/-- The doubles next to `m · 2 ^ e`, halfway: everything between `low` and `high` is read as that
double, and the two ends are as well if `closed`. All three values are in units of `1 / unit`. -/
structure Interval where
  low : Nat
  value : Nat
  high : Nat
  unit : Nat
  closed : Bool
deriving Repr

/-- The interval of a positive double. The gap below a power of two is half the gap above it, except
at the smallest exponent. -/
def interval (m : Nat) (e : Int) : Interval :=
  let below := if m = Nat.pow 2 52 && -1074 < e then 1 else 2
  let scale := if 0 ≤ e then Nat.pow 2 e.toNat else 1
  { low := (4 * m - below) * scale
    value := 4 * m * scale
    high := (4 * m + 2) * scale
    unit := if 0 ≤ e then 4 else 4 * Nat.pow 2 (-e).toNat
    closed := m % 2 = 0 }

/-- Whether `n · 10 ^ place` is read as the double of the interval. -/
def Interval.contains (i : Interval) (n : Nat) (place : Int) : Bool :=
  let scaled := if 0 ≤ place then n * Nat.pow 10 place.toNat * i.unit else n * i.unit
  let grid := if 0 ≤ place then 1 else Nat.pow 10 (-place).toNat
  if i.closed then i.low * grid ≤ scaled && scaled ≤ i.high * grid
  else i.low * grid < scaled && scaled < i.high * grid

/-- The neighbour of the value on the grid of multiples of `10 ^ place` that is read as the same
double. Of two such neighbours it is the nearer one, and the upper one if they are equally near. -/
def Interval.onGrid? (i : Interval) (place : Int) : Option Nat :=
  let numerator := if 0 ≤ place then i.value else i.value * Nat.pow 10 (-place).toNat
  let denominator := if 0 ≤ place then i.unit * Nat.pow 10 place.toNat else i.unit
  let below := numerator / denominator
  let nearest := Rounding.divide .up numerator denominator
  if i.contains nearest place then some nearest
  else if i.contains below place then some below
  else if i.contains (below + 1) place then some (below + 1)
  else none

/-- The place of the first digit: the largest `k` with `10 ^ k ≤ n / d`. -/
def leadingPlace (n d : Nat) : Int :=
  if d ≤ n then (Nat.toDigits 10 (n / d)).length - 1
  else
    let guess := (Nat.toDigits 10 (d / n)).length
    if d ≤ n * Nat.pow 10 (guess - 1) then 1 - guess else -guess

/-- The digits of the interval's value on the first grid that has a hit, from the place of the
leading digit downwards, and that grid's place. 17 digits always suffice. -/
def Interval.digitsFrom (i : Interval) : (count : Nat) → (place : Int) → Nat × Int
  | 0, place => (Rounding.divide .up i.value i.unit, place)
  | count + 1, place =>
    match i.onGrid? place with
    | some n => (n, place)
    | none => digitsFrom i count (place - 1)

/-- The fewest digits of a positive double `m · 2 ^ e` as `(n, place)`, standing for
`n · 10 ^ place`. -/
def shortestDigits (m : Nat) (e : Int) : Nat × Int :=
  let i := interval m e
  i.digitsFrom 18 (leadingPlace i.value i.unit)

/-! ## Positional notation -/

/-- A whole number with the point in front of its last `decimals` digits. Without decimals there is
no point. -/
def pointed (decimals n : Nat) : Text :=
  if decimals = 0 then Numeral.ofNat n
  else
    let digits := Numeral.zeroPadded (decimals + 1) n
    let whole := digits.length - decimals
    digits.take whole ++ '.' :: digits.drop whole

/-- A whole number without the zeros at its end, but at most `limit` of them, and how many stay. -/
def dropZeros : (limit : Nat) → (n : Nat) → Nat × Nat
  | 0, n => (n, 0)
  | limit + 1, n =>
    if n % 10 = 0 then dropZeros limit (n / 10) else (n, limit + 1)

/-- `n · 10 ^ place` with as many decimals as it needs. -/
def positional (n : Nat) (place : Int) : Text :=
  if 0 ≤ place then Numeral.ofNat (n * Nat.pow 10 place.toNat)
  else
    let (n, decimals) := dropZeros (-place).toNat n
    pointed decimals n

/-- Put the sign of a negative number in front of its digits. -/
def signed (negative : Bool) (digits : Text) : Text := if negative then '-' :: digits else digits

/-- The text of a double with the fewest digits that are read back as the same double. -/
def shortest (x : Float) : Text :=
  match Binary64.parts x with
  | .notANumber => "NaN".toList
  | .infinite negative => signed negative "inf".toList
  | .finite negative 0 _ => signed negative ['0']
  | .finite negative m e =>
    let (n, place) := shortestDigits m e
    signed negative (positional n place)

/-- The text of a double rounded to the given number of decimals, halves to the even digit. -/
def fixed (decimals : Nat) (x : Float) : Text :=
  match Binary64.parts x with
  | .notANumber => "NaN".toList
  | .infinite negative => signed negative "inf".toList
  | .finite negative m e =>
    let numerator := m * Nat.pow 10 decimals * (if 0 ≤ e then Nat.pow 2 e.toNat else 1)
    let denominator := if 0 ≤ e then 1 else Nat.pow 2 (-e).toNat
    signed negative (pointed decimals (Rounding.divide .toEven numerator denominator))

end Decimal

end WeatherBus
