import WeatherBus.Proofs.Number.Digits
import WeatherBus.Text.Utf8

/-! # Hexadecimal fields

A number that is written with leading zeros is read back, and its digits are mistaken neither for
blanks nor for what delimits a field.

* **`Numeral.natural?_hex`**, **`Numeral.hexField?_hex`** — what is written is read back;
* **`Numeral.hexField?_eq_natural?`** — a field of the right length without blanks around it;
* **`Numeral.isHexByte`** — the bytes of hexadecimal digits. -/

namespace WeatherBus

namespace Numeral

/-! ## Digits -/

/-- A hexadecimal digit as it is written. -/
def hexDigit (d : Nat) : Char := (Nat.digitChar d).toUpper

/-- A hexadecimal digit is read back. -/
theorem digit?_hexDigit {d : Nat} (h : d < 16) : digit? 16 (hexDigit d) = some d := by
  have hall : ∀ d < 16, digit? 16 (hexDigit d) = some d := by decide
  exact hall d h

/-- A byte of a hexadecimal digit. -/
def isHexByte (b : UInt8) : Bool := (0x30 ≤ b && b ≤ 0x39) || (0x41 ≤ b && b ≤ 0x46)

/-- It is written by a byte for digits. -/
theorem isHexByte_of_mem_encode_hexDigit {d : Nat} {b : UInt8} (h : d < 16)
    (hb : b ∈ Utf8.encode [hexDigit d]) : isHexByte b = true := by
  have hall : ∀ d < 16, (Utf8.encode [hexDigit d]).all isHexByte = true := by decide
  exact List.all_eq_true.1 (hall d h) b hb

/-! ## Digits of a number -/

/-- A number is read from its hexadecimal digits. -/
theorem digitsFrom?_toDigits (n : Nat) :
    digitsFrom? 16 0 (Text.upper (Nat.toDigits 16 n)) = some n :=
  digitsFrom?_map_toDigits (by decide) (fun _ hd => digit?_hexDigit hd) n

/-- No number is written without them. -/
theorem hex_ne_nil (width n : Nat) : hex width n ≠ [] := by
  have hdigits := toDigits_ne_nil 16 n (by decide)
  rw [hex, zeroFilled, Text.upper]
  exact List.append_ne_nil_of_right_ne_nil _ (mt List.map_eq_nil_iff.1 hdigits)

/-- Whatever the width, a number is read back. -/
theorem natural?_hex (width n : Nat) : natural? 16 (hex width n) = some n := by
  rw [natural?_of_ne_nil (hex_ne_nil width n), hex, zeroFilled, digitsFrom?_append,
    digitsFrom?_zeros (by decide), Option.bind_some, digitsFrom?_toDigits]

/-! ## The field of a number -/

/-- A field holds digits only. -/
theorem exists_hexDigit_of_mem_hex {width n : Nat} {c : Char} (hc : c ∈ hex width n) :
    ∃ d < 16, c = hexDigit d := by
  rw [hex, zeroFilled, List.mem_append] at hc
  rcases hc with hc | hc
  · exact ⟨0, by decide, List.eq_of_mem_replicate hc⟩
  · exact exists_digit_of_mem_map_toDigits (by decide) hc

/-- A number that fits into the width fills it. -/
theorem length_hex {width n : Nat} (hw : 0 < width) (h : n < 16 ^ width) :
    (hex width n).length = width := by
  have hdigits : (Nat.toDigits 16 n).length ≤ width :=
    (Nat.length_toDigits_le_iff (by decide) hw).2 h
  rw [hex, zeroFilled, List.length_append, List.length_replicate, Text.upper, List.length_map]
  omega

/-- A field of digits is read as their number if it is not too long. -/
theorem hexField?_eq_natural? {width n : Nat} {field : Text} (hlength : field.length ≤ width)
    (h : natural? 16 field = some n) : hexField? width field = some n := by
  have htrim : Text.trim field = field :=
    Text.trim_eq_self fun c hc => Text.isBlank_of_isAlphanum (isAlphanum_of_natural? h c hc)
  rw [hexField?, htrim, if_pos hlength, h]

/-- A field with a checksum is read back. -/
theorem hexField?_hex {width n : Nat} (hw : 0 < width) (h : n < 16 ^ width) :
    hexField? width (hex width n) = some n :=
  hexField?_eq_natural? (Nat.le_of_eq (length_hex hw h)) (natural?_hex width n)

/-- All bytes of a number are bytes for digits. -/
theorem isHexByte_of_mem_encode_hex {width n : Nat} {b : UInt8}
    (hb : b ∈ Utf8.encode (hex width n)) : isHexByte b = true := by
  obtain ⟨c, hc, hb⟩ := List.mem_flatMap.1 hb
  obtain ⟨d, hd, rfl⟩ := exists_hexDigit_of_mem_hex hc
  refine isHexByte_of_mem_encode_hexDigit hd ?_
  rw [Utf8.encode, List.flatMap_singleton]
  exact hb

end Numeral

end WeatherBus
