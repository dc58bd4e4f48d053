import WeatherBus.Text.Basic

/-! # Classes of characters

A class with many members is given by the numbers at which it is entered and left.

* **`Text.isWithin`** — whether a number belongs to such a class. -/

namespace WeatherBus

namespace Text

/-- Whether a number lies in a class. Its bounds rise: at the first of them the class is entered, at
the second it is left, at the third it is entered again, and so on. -/
def isWithin : (bounds : List Nat) → (n : Nat) → Bool
  | [], _ => false
  | [low], n => low ≤ n
  | low :: high :: rest, n => low ≤ n && (n < high || isWithin rest n)

end Text

end WeatherBus
