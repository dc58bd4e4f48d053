import WeatherBus.Number.Integer

/-! # Dates and times of day

* **`Timestamp.date`** — `YYYY-MM-DD`; a year with other than four digits is written with its sign;
* **`Timestamp.time`** — `hh:mm:ss`. -/

namespace WeatherBus

/-- A date of the calendar and a time of day. -/
structure Timestamp where
  year : Int := 1970
  month : Nat := 1
  day : Nat := 1
  hour : Nat := 0
  minute : Nat := 0
  second : Nat := 0
deriving DecidableEq, Repr

namespace Timestamp

/-- A year in at least four digits, with a sign where four digits do not suffice. -/
def yearText : Int → Text
  | .ofNat n => if n < 10000 then Numeral.zeroPadded 4 n else '+' :: Numeral.ofNat n
  | .negSucc n => '-' :: Numeral.zeroPadded 4 (n + 1)

/-- The date. -/
def date (t : Timestamp) : Text :=
  yearText t.year ++ '-' :: Numeral.zeroPadded 2 t.month ++ '-' :: Numeral.zeroPadded 2 t.day

/-- The time of day. -/
def time (t : Timestamp) : Text :=
  Numeral.zeroPadded 2 t.hour ++ ':' :: Numeral.zeroPadded 2 t.minute ++
    ':' :: Numeral.zeroPadded 2 t.second

end Timestamp

end WeatherBus
