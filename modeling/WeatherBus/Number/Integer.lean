import WeatherBus.Text.Basic

/-! # Whole numbers as text

* **`Numeral.digit?`**, **`Numeral.natural?`** — digits of a base up to 16 and the number they
  write;
* **`Numeral.unsigned?`**, **`Numeral.word?`** — numbers of a fixed range with an optional sign;
* **`Numeral.ofNat`**, **`Numeral.hex`**, **`Numeral.zeroPadded`** — the written forms. -/

namespace WeatherBus

namespace Numeral

/-! ## Reading -/

/-- The value of a digit, letters of either case standing for ten and more. -/
def digit? (base : Nat) (c : Char) : Option Nat :=
  let n := c.toNat
  let value :=
    if 48 ≤ n && n ≤ 57 then n - 48
    else if 65 ≤ n && n ≤ 90 then n - 55
    else if 97 ≤ n && n ≤ 122 then n - 87
    else base
  if value < base then some value else none

/-- The number whose leading part is `high` and whose further digits are the text. -/
def digitsFrom? (base : Nat) : (high : Nat) → Text → Option Nat
  | high, [] => some high
  | high, c :: t => (digit? base c).bind fun d => digitsFrom? base (high * base + d) t

/-- The number written by one or more digits and nothing else. -/
def natural? (base : Nat) : Text → Option Nat
  | [] => none
  | c :: t => digitsFrom? base 0 (c :: t)

/-- A number of at most `bits` binary digits, with an optional `+` in front. -/
def unsigned? (base bits : Nat) (t : Text) : Option Nat :=
  let digits := match t with
    | '+' :: rest => rest
    | _ => t
  (natural? base digits).filter (· < Nat.pow 2 bits)

/-- A whole number with an optional sign in front. -/
def integer? : Text → Option Int
  | '+' :: rest => (natural? 10 rest).map Int.ofNat
  | '-' :: rest => (natural? 10 rest).map fun n => -Int.ofNat n
  | t => (natural? 10 t).map Int.ofNat

/-- The range of a signed word of 64 bits. -/
def IsWord (n : Int) : Prop := -0x8000000000000000 ≤ n ∧ n < 0x8000000000000000

instance (n : Int) : Decidable (IsWord n) := inferInstanceAs (Decidable (_ ∧ _))

/-- A whole number in the range of a signed word of 64 bits, with an optional sign in front. -/
def word? (t : Text) : Option Int := (integer? t).filter (IsWord ·)

/-- An unsigned byte. -/
def byte? (t : Text) : Option Nat := unsigned? 10 8 t

/-- An unsigned word of 32 bits. -/
def word32? (t : Text) : Option Nat := unsigned? 10 32 t

/-- A hexadecimal field of a checksum: one to `width` digits, blanks around them aside, no sign. -/
def hexField? (width : Nat) (t : Text) : Option Nat :=
  let field := Text.trim t
  if field.length ≤ width then natural? 16 field else none

/-! ## Writing -/

/-- The decimal digits of a number. -/
def ofNat (n : Nat) : Text := Nat.toDigits 10 n

/-- The decimal digits of a number, with a sign in front of a negative one. -/
def ofInt : Int → Text
  | .ofNat n => ofNat n
  | .negSucc n => '-' :: ofNat (n + 1)

/-- A text with zeros in front of it, up to the given width. -/
def zeroFilled (width : Nat) (t : Text) : Text := List.replicate (width - t.length) '0' ++ t

/-- The decimal digits of a number, at least `width` of them. -/
def zeroPadded (width n : Nat) : Text := zeroFilled width (ofNat n)

/-- The hexadecimal digits of a number in capitals, at least `width` of them. -/
def hex (width n : Nat) : Text := zeroFilled width (Text.upper (Nat.toDigits 16 n))

end Numeral

end WeatherBus
