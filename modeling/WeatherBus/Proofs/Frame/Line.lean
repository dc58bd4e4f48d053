import Mathlib.Data.List.TakeWhile
import WeatherBus.Frame.Line
import WeatherBus.Proofs.Number.Digits

/-! # The address and the checksum of a line

* **`Line.AddressSplit`** — what can become of a line when its address is taken off;
  `Line.addressSplit` says that nothing else can;
* **`Line.splitAddress_append`**, **`Line.splitAddress_cons`** — an address is taken off a line, and
  there is none without a digit in front;
* **`Line.splitChecksum_of_notMem`** — there is no checksum without its marker. -/

namespace WeatherBus

namespace Line

/-- What becomes of a line when its address is taken off. -/
inductive AddressSplit : Text → Except Fault (Option Nat × Text) → Prop where
  /-- It has none. -/
  | absent (line : Text) : AddressSplit line (.ok (none, line))
  /-- The digits in front of its first colon are the address. -/
  | found {digits : Text} {address : Nat} (rest : Text) (hne : digits ≠ [])
      (hdigits : ∀ c ∈ digits, c.isDigit = true) (h : Numeral.word32? digits = some address) :
      AddressSplit (digits ++ ':' :: rest) (.ok (some address, rest))
  /-- These digits write a number that does not fit into 32 bits. -/
  | tooLong {line digits rest : Text} (hline : line = digits ++ ':' :: rest) (hne : digits ≠ [])
      (hdigits : ∀ c ∈ digits, c.isDigit = true) (h : Numeral.word32? digits = none) :
      AddressSplit line (.error (.malformedFrame s!"address too long: {String.ofList line}"))

/-- The address of every line is taken off in one of these ways. -/
theorem addressSplit (line : Text) : AddressSplit line (splitAddress line) := by
  have hline : line.takeWhile Char.isDigit ++ line.dropWhile Char.isDigit = line :=
    List.takeWhile_append_dropWhile
  have hdigits : ∀ c ∈ line.takeWhile Char.isDigit, c.isDigit = true :=
    fun c hc => List.mem_takeWhile_imp hc
  rw [splitAddress]
  split
  · rename_i first others rest hfront hback
    have hne : line.takeWhile Char.isDigit ≠ [] := by
      rw [hfront]
      exact List.cons_ne_nil _ _
    rw [hback] at hline
    split
    · rename_i address haddress
      have hfound := AddressSplit.found rest hne hdigits haddress
      rwa [hline] at hfound
    · rename_i hlong
      exact .tooLong hline.symm hne hdigits hlong
  · exact .absent line

/-- A number in front of a colon is the address. -/
theorem splitAddress_append {digits : Text} {address : Nat} (hne : digits ≠ [])
    (hdigits : ∀ c ∈ digits, c.isDigit = true) (h : Numeral.word32? digits = some address)
    (rest : Text) : splitAddress (digits ++ ':' :: rest) = .ok (some address, rest) := by
  have hcolon : ':'.isDigit = false := by decide
  obtain ⟨hfront, hback⟩ := Numeral.takeWhile_isDigit_append_cons hdigits hcolon rest
  obtain ⟨c, others, rfl⟩ := List.exists_cons_of_ne_nil hne
  rw [splitAddress, hfront, hback]
  simp only [h]

/-- A line that does not start with a digit has no address. -/
theorem splitAddress_cons {c : Char} (h : c.isDigit = false) (rest : Text) :
    splitAddress (c :: rest) = .ok (none, c :: rest) := by
  have hfront : (c :: rest).takeWhile Char.isDigit = [] := by
    rw [List.takeWhile_cons, h]
    rfl
  rw [splitAddress, hfront]

/-- A line without the marker has no checksum. -/
theorem splitChecksum_of_notMem {marker : Char} {line : Text} (h : marker ∉ line) :
    splitChecksum marker line = (line, none) := by
  have hnone : splitLast? (· == marker) line = none :=
    splitLast?_eq_none.2 fun c hc => beq_eq_false_iff_ne.2 fun heq => h (heq ▸ hc)
  rw [splitChecksum, hnone]

end Line

end WeatherBus
