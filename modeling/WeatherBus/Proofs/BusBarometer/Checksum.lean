import WeatherBus.BusBarometer.Command
import WeatherBus.Proofs.Frame.Line
import WeatherBus.Proofs.Number.Hex

/-! # The checksum of a line

A line of the bus barometer may end with `*` and two hexadecimal digits, the exclusive or of the
bytes in front of the `*`. Blanks around a line are taken off before its checksum is looked at, so
those in front of the line are not part of it.

* **`OneByteApart.xor_ne`** — a byte that is replaced by another one changes the sum;
* **`BusBarometer.Command.read_summed`** — how a line with a checksum is read;
* **`BusBarometer.checksum_valid_iff`** — when the sum of a text is the right one for it, and when
  it is taken for that of a text with one other byte. -/

namespace WeatherBus

/-! ## Sums of bytes -/

/-- Bytes of the same length that differ in exactly one place. -/
inductive OneByteApart : Bytes → Bytes → Prop where
  | replaced (front back : Bytes) {a b : UInt8} (h : a ≠ b) :
      OneByteApart (front ++ a :: back) (front ++ b :: back)

/-- A byte that is replaced by another one changes the sum. -/
theorem OneByteApart.xor_ne {p q : Bytes} (h : OneByteApart p q) :
    Checksum.xor p ≠ Checksum.xor q := by
  obtain ⟨front, back, hne⟩ := h
  rw [Checksum.xor_append, Checksum.xor_append, Checksum.xor_cons, Checksum.xor_cons]
  intro heq
  have hmiddle := (UInt8.xor_right_inj _).1 heq
  exact hne ((UInt8.xor_left_inj _).1 hmiddle)

namespace BusBarometer

namespace Command

/-! ## Lines with a checksum -/

/-- A text with a checksum behind it. -/
def summed (body digits : Text) : Text := body ++ '*' :: digits

/-- Two hexadecimal digits, in letters of either case, that write a number. -/
structure WritesSum (digits : Text) (sum : Nat) : Prop where
  length_eq : digits.length = 2
  natural?_eq : Numeral.natural? 16 digits = some sum

namespace WritesSum

variable {digits : Text} {sum : Nat}

/-- A checksum is written without a star. -/
theorem notMem_star (h : WritesSum digits sum) : '*' ∉ digits := fun hmem => by
  have halphanum := Numeral.isAlphanum_of_natural? h.natural?_eq '*' hmem
  exact absurd halphanum (by decide)

/-- A checksum is read back. -/
theorem hexField?_eq (h : WritesSum digits sum) : Numeral.hexField? 2 digits = some sum :=
  Numeral.hexField?_eq_natural? (Nat.le_of_eq h.length_eq) h.natural?_eq

end WritesSum

/-- Why the address in front of a text is refused. -/
inductive AddressFault : Text → Fault → Prop where
  /-- It does not fit into 32 bits. -/
  | tooLong {line digits rest : Text} (hline : line = digits ++ ':' :: rest) (hne : digits ≠ [])
      (hdigits : ∀ c ∈ digits, c.isDigit = true) (hlong : Numeral.word32? digits = none) :
      AddressFault line (.malformedFrame s!"address too long: {String.ofList line}")
  /-- No barometer can have it. -/
  | tooLarge {digits rest : Text} {address : Nat} (hne : digits ≠ [])
      (hdigits : ∀ c ∈ digits, c.isDigit = true)
      (haddress : Numeral.word32? digits = some address) (hlarge : maxAddress < address) :
      AddressFault (digits ++ ':' :: rest) (.addressOutOfRange address)

/-- What a text with a checksum is read as: its address is refused, or it is a request whose
checksum is valid under a condition. -/
inductive Verdict (body : Text) (valid : Prop) : Except Fault (Request Command) → Prop where
  | refused {fault : Fault} (h : AddressFault (Text.trimStart body) fault) :
      Verdict body valid (.error fault)
  | understood {request : Request Command} (h : request.checksum = .valid ↔ valid) :
      Verdict body valid (.ok request)

/-- A checksum is read behind the last `*`, which is the one in front of its digits. -/
theorem splitChecksum_summed {digits : Text} (h : '*' ∉ digits) (body : Text) :
    Line.splitChecksum '*' (summed body digits) = (body, some digits) := by
  have hcut : splitLast? (· == '*') (body ++ '*' :: digits) = some (body, digits) :=
    splitLast?_append body (beq_self_eq_true '*') fun c hc =>
      beq_eq_false_iff_ne.2 fun heq => h (heq ▸ hc)
  rw [Line.splitChecksum, summed, hcut]

/-- The digits of a checksum are no blanks, so only the margin of a line is taken off. -/
theorem trim_summed {digits : Text} {sum : Nat} (h : WritesSum digits sum) (body : Text) :
    Text.trim (summed body digits) = summed (Text.trimStart body) digits := by
  refine Text.trim_append (List.cons_ne_nil _ _) fun c hc => ?_
  rcases List.mem_cons.1 hc with rfl | hc
  · decide
  · exact Text.isBlank_of_isAlphanum (Numeral.isAlphanum_of_natural? h.natural?_eq c hc)

/-- A line with a checksum is read without its margin, and its sum compared with that of what is
left of it. -/
theorem read_summed {digits : Text} {sum : Nat} (h : WritesSum digits sum) (body : Text) :
    Verdict body (sum = (Checksum.xor (Utf8.encode (Text.trimStart body))).toNat)
      (read (Utf8.encode (summed body digits))) := by
  rw [read, Utf8.decode?_encode]
  simp only [trim_summed h, splitChecksum_summed h.notMem_star, status, h.hexField?_eq, bind,
    Except.bind]
  have hsplit := Line.addressSplit (Text.trimStart body)
  generalize hleft : Text.trimStart body = left at hsplit
  generalize Line.splitAddress left = result at hsplit
  cases hsplit with
  | absent => exact .understood ChecksumStatus.compare_eq_valid_iff
  | tooLong hline hne hdigits hlong =>
    refine .refused ?_
    rw [hleft]
    exact .tooLong hline hne hdigits hlong
  | @found number address rest hne hdigits haddress =>
    simp only [targetOf]
    by_cases hle : address ≤ maxAddress
    · rw [if_pos hle]
      exact .understood ChecksumStatus.compare_eq_valid_iff
    · rw [if_neg hle]
      refine .refused ?_
      rw [hleft]
      exact .tooLarge hne hdigits haddress (Nat.lt_of_not_le hle)

end Command

open Command (summed WritesSum Verdict)

/-- Two sums agree on what follows a margin exactly if the margin makes up for their difference. -/
theorem sum_eq_iff_margin (sum : UInt8) (text : Text) :
    sum = Checksum.xor (Utf8.encode (Text.trimStart text)) ↔
      Checksum.xor (Utf8.encode (Text.margin text)) =
        sum ^^^ Checksum.xor (Utf8.encode text) := by
  have hparts : Checksum.xor (Utf8.encode text) = Checksum.xor (Utf8.encode (Text.margin text)) ^^^
      Checksum.xor (Utf8.encode (Text.trimStart text)) := by
    rw [← Checksum.xor_append, ← Utf8.encode_append, Text.margin_append_trimStart]
  generalize Checksum.xor (Utf8.encode (Text.margin text)) = margin at hparts ⊢
  generalize Checksum.xor (Utf8.encode (Text.trimStart text)) = left at hparts ⊢
  calc sum = left ↔ sum ^^^ left = 0 := UInt8.xor_eq_zero_iff.symm
    _ ↔ margin ^^^ 0 = margin ^^^ (sum ^^^ left) := by rw [UInt8.xor_right_inj, eq_comm]
    _ ↔ margin = sum ^^^ Checksum.xor (Utf8.encode text) := by
      rw [hparts, UInt8.xor_zero, ← UInt8.xor_assoc, ← UInt8.xor_assoc, UInt8.xor_comm margin sum]

/-- The sum of a text as its checksum is found to be right exactly if the blanks in front of the
text add up to nothing, as long as the address of the text is accepted. The same sum is found to be
right for a text with one other byte exactly if the blanks in front of that text make up for the
difference, which they never do if they add up to nothing. -/
theorem checksum_valid_iff {body digits : Text}
    (h : WritesSum digits (Checksum.xor (Utf8.encode body)).toNat) :
    Verdict body (Checksum.xor (Utf8.encode (Text.margin body)) = 0)
      (Command.read (Utf8.encode (summed body digits))) ∧
    ∀ other : Text, OneByteApart (Utf8.encode body) (Utf8.encode other) →
      Verdict other (Checksum.xor (Utf8.encode (Text.margin other)) =
          Checksum.xor (Utf8.encode body) ^^^ Checksum.xor (Utf8.encode other))
        (Command.read (Utf8.encode (summed other digits))) ∧
      (Checksum.xor (Utf8.encode (Text.margin other)) = 0 →
        ∀ request, Command.read (Utf8.encode (summed other digits)) = .ok request →
          request.checksum ≠ .valid) := by
  refine ⟨?_, fun other hother => ?_⟩
  · have hread := Command.read_summed h body
    rwa [UInt8.toNat_inj, sum_eq_iff_margin, UInt8.xor_self] at hread
  · have hread := Command.read_summed h other
    rw [UInt8.toNat_inj, sum_eq_iff_margin] at hread
    refine ⟨hread, fun hmargin request hrequest hvalid => ?_⟩
    rw [hrequest] at hread
    cases hread with
    | understood hiff =>
      have hnone := hiff.1 hvalid
      rw [hmargin, eq_comm, UInt8.xor_eq_zero_iff] at hnone
      exact hother.xor_ne hnone

/-- A line for the barometer at address 5 behind two blanks, which add up to nothing, with two stars
and a blank at its end. Its sum is right for it, and not with another digit in it. -/
theorem checksum_valid_iff_stars :
    let body := "  05:N,7* *".toList
    let other := "  05:N,8* *".toList
    let digits := "4a".toList
    WritesSum digits (Checksum.xor (Utf8.encode body)).toNat ∧
    OneByteApart (Utf8.encode body) (Utf8.encode other) ∧
    Verdict body (Checksum.xor (Utf8.encode (Text.margin body)) = 0)
      (Command.read (Utf8.encode (summed body digits))) ∧
    Checksum.xor (Utf8.encode (Text.margin body)) = 0 ∧
    ∀ request, Command.read (Utf8.encode (summed other digits)) = .ok request →
      request.checksum ≠ .valid := by
  intro body other digits
  have hdigits : WritesSum digits (Checksum.xor (Utf8.encode body)).toNat :=
    ⟨by decide, by decide⟩
  have hother : OneByteApart (Utf8.encode body) (Utf8.encode other) :=
    .replaced (Utf8.encode "  05:N,".toList) (Utf8.encode "* *".toList) (by decide)
  obtain ⟨hbody, hrest⟩ := checksum_valid_iff hdigits
  exact ⟨hdigits, hother, hbody, by decide, (hrest other hother).2 (by decide)⟩

/-- Blanks in front of a line are part of its sum, but they are not looked at. The sum of ` P` is
found to be wrong for ` P`. The sum of `P` behind two blanks is found to be right for `P` behind a
tabulator and a blank, which is one other byte. -/
theorem checksum_of_margin :
    (WritesSum "70".toList (Checksum.xor (Utf8.encode " P".toList)).toNat ∧
      ∃ request, Command.read (Utf8.encode (summed " P".toList "70".toList)) = .ok request ∧
        request.checksum = .invalid 0x70 0x50) ∧
    WritesSum "50".toList (Checksum.xor (Utf8.encode "  P".toList)).toNat ∧
      OneByteApart (Utf8.encode "  P".toList) (Utf8.encode "\t P".toList) ∧
      ∃ request, Command.read (Utf8.encode (summed "\t P".toList "50".toList)) = .ok request ∧
        request.checksum = .valid :=
  ⟨⟨⟨rfl, by decide⟩, _, rfl, rfl⟩, ⟨rfl, by decide⟩,
    .replaced [] (Utf8.encode " P".toList) (by decide), _, rfl, rfl⟩

end BusBarometer

end WeatherBus
