import WeatherBus.Number.Integer

/-! # Reading doubles

A double is written as an optional sign and either `inf`, `infinity` or `nan` in letters of any
case, or digits with an optional point and an optional exponent. At least one digit stands in front
of or behind the point. The value is the nearest double.

* **`Reader.number?`** — the double of a text;
* **`Reader.scientific`** — the double nearest to `n · 10 ^ place`, for exponents of any size. -/

namespace WeatherBus

namespace Reader

/-- The double nearest to `n · 10 ^ place`. Values that no finite double is near are decided by
their number of digits alone, so that no power of ten is larger than it has to be. -/
def scientific (n : Nat) (place : Int) : Float :=
  let magnitude := place + (Nat.toDigits 10 n).length
  if n = 0 || magnitude < -400 then 0.0
  else if 400 < magnitude then 1.0 / 0.0
  else Float.ofScientific n (place < 0) place.natAbs

/-- The exponent behind `e` or `E`: nothing at all, or digits with an optional sign. -/
def exponent? : Text → Option Int
  | [] => some 0
  | c :: t => if c.toUpper = 'E' then Numeral.integer? t else none

/-- The double of digits with an optional point and exponent. -/
def unsigned? (t : Text) : Option Float :=
  let whole := t.takeWhile Char.isDigit
  let behind := t.dropWhile Char.isDigit
  let (decimals, rest) := match behind with
    | '.' :: r => (r.takeWhile Char.isDigit, r.dropWhile Char.isDigit)
    | _ => ([], behind)
  let digits := whole ++ decimals
  if digits.isEmpty then none
  else do
    let n ← Numeral.natural? 10 digits
    let e ← exponent? rest
    return scientific n (e - decimals.length)

/-- The double of a text without a sign. -/
def magnitude? (t : Text) : Option Float :=
  let word := Text.upper t
  if word = "INF".toList || word = "INFINITY".toList then some (1.0 / 0.0)
  else if word = "NAN".toList then some (0.0 / 0.0)
  else unsigned? t

/-- The double that a text writes. -/
def number? : Text → Option Float
  | '+' :: t => magnitude? t
  | '-' :: t => (magnitude? t).map fun x => -x
  | t => magnitude? t

end Reader

end WeatherBus
