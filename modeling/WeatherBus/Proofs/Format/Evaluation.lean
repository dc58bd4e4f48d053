import WeatherBus.Format.Basic
import WeatherBus.Proofs.Checksum.Meaning
import WeatherBus.Proofs.Number.Hex

/-! # Output from the left to the right

The items of a format only add to the output. What an item adds depends on two things that are
carried along: the output so far, and the unit of the last variable that has one.

* **`Format.output_prefix_emit`** — the output so far is never changed;
* **`Format.lastUnit`**, `Format.unit_emit` — the unit that is carried along;
* **`Format.Check.IsFieldOf`**, **`Format.IsUnitField`** — what a checksum and a unit look like,
  said without the definitions that write them;
* **`Format.evaluates_in_order`** — the output of a list of items starts with that of its front, and
  a checksum or a unit behind the front is about nothing else. -/

namespace WeatherBus

namespace Format

variable {V S : Type} {words : Vocabulary V S} {snapshot : S}

/-! ## What is carried along -/

/-- An item adds to the output. -/
theorem Item.output_prefix_emit (before : Emission) (item : Item V) :
    before.output <+: (item.emit words snapshot before).output := by
  cases item with
  | literal text => exact List.prefix_append _ _
  | quantity name width precision => exact List.prefix_append _ _
  | unit width => exact List.prefix_append _ _
  | check kind => exact List.prefix_append _ _

/-- Items are written one after the other. -/
theorem emit_append (a b : List (Item V)) (before : Emission) :
    emit words snapshot (a ++ b) before = emit words snapshot b (emit words snapshot a before) :=
  List.foldl_append

/-- All items add to the output. -/
theorem output_prefix_emit (items : List (Item V)) (before : Emission) :
    before.output <+: (emit words snapshot items before).output := by
  induction items generalizing before with
  | nil => exact List.prefix_refl _
  | cons item rest ih => exact (item.output_prefix_emit before).trans (ih _)

/-- The unit of the variable that an item writes, if it writes one that has a unit. -/
def Item.unit? (words : Vocabulary V S) (snapshot : S) : Item V → Option Text
  | .quantity name _ _ => words.unit name snapshot
  | _ => none

/-- The unit of the last variable that has one, or the one for formats without such a variable. -/
def lastUnit (words : Vocabulary V S) (snapshot : S) (items : List (Item V)) : Text :=
  (items.filterMap (Item.unit? words snapshot)).getLast?.getD (words.fallbackUnit snapshot)

/-- An item with a unit brings its own, and the others keep the one in force. -/
theorem Item.unit_emit (before : Emission) (item : Item V) :
    (item.emit words snapshot before).unit = (item.unit? words snapshot).or before.unit := by
  cases item <;> rfl

/-- The unit of the last variable that has one is carried along. -/
theorem unit_emit (items : List (Item V)) (before : Emission) :
    (emit words snapshot items before).unit =
      (items.filterMap (Item.unit? words snapshot)).getLast?.or before.unit := by
  induction items generalizing before with
  | nil => rfl
  | cons item rest ih =>
    have hstep : (emit words snapshot (item :: rest) before).unit =
        (rest.filterMap (Item.unit? words snapshot)).getLast?.or
          ((item.unit? words snapshot).or before.unit) := by
      rw [← item.unit_emit before]
      exact ih _
    rw [hstep]
    cases hunit : item.unit? words snapshot with
    | none => rw [List.filterMap_cons_none hunit, Option.none_or]
    | some unit =>
      rw [List.filterMap_cons_some hunit, List.getLast?_cons, Option.some_or, Option.some_or]
      cases (rest.filterMap (Item.unit? words snapshot)).getLast? <;> rfl

/-- What is carried along behind some items. -/
theorem emit_empty (items : List (Item V)) : emit words snapshot items Emission.empty =
    ⟨evaluate words snapshot items,
      (items.filterMap (Item.unit? words snapshot)).getLast?⟩ := by
  have hunit : (emit words snapshot items Emission.empty).unit =
      (items.filterMap (Item.unit? words snapshot)).getLast? := by
    rw [unit_emit, show Emission.empty.unit = none from rfl, Option.or_none]
  rw [← hunit]
  rfl

/-! ## Checksums -/

/-- The number of digits of a checksum. -/
def Check.width : Check → Nat
  | .xor => 2
  | .crc => 4
  | .sum => 2

/-- The calculated checksum of some bytes as a number. -/
def Check.sumOf (kind : Check) (data : Bytes) : Nat :=
  match kind with
  | .xor => (Checksum.xor data).toNat
  | .crc => (Checksum.ccitt data).toNat
  | .sum => (Checksum.sum data).toNat

/-- Which number the checksum of some bytes is: for each bit whether an odd number of bytes has it,
the remainder of the division by the polynomial with all bits set at first, or the sum of the bytes
modulo 256. -/
def Check.IsSumOf (kind : Check) (data : Bytes) (n : Nat) : Prop :=
  match kind with
  | .xor => Checksum.IsParity data n
  | .crc => Checksum.IsRemainder 0xFFFF#16 data n
  | .sum => Checksum.IsTotal data n

/-- Some bytes have one checksum of each kind, and it is the calculated one. -/
theorem Check.isSumOf_iff {kind : Check} {data : Bytes} {n : Nat} :
    kind.IsSumOf data n ↔ n = kind.sumOf data := by
  cases kind with
  | xor => exact Checksum.isParity_iff
  | crc => exact Checksum.isRemainder_iff
  | sum => exact Checksum.isTotal_iff

/-- The field of a checksum: its hexadecimal digits in capitals, as many as its kind has. -/
structure Check.IsFieldOf (kind : Check) (data : Bytes) (field : Text) : Prop where
  length_eq : field.length = kind.width
  isDigit : ∀ c ∈ field, c ∈ "0123456789ABCDEF".toList
  exists_natural?_eq : ∃ n, Numeral.natural? 16 field = some n ∧ kind.IsSumOf data n

/-- A checksum is written by the digits of its sum. -/
theorem Check.render_eq (kind : Check) (output : Text) :
    kind.render output = Numeral.hex kind.width (kind.sumOf (Utf8.encode output)) := by
  cases kind <;> rfl

/-- A checksum fits into its field. -/
theorem Check.sumOf_lt (kind : Check) (data : Bytes) : kind.sumOf data < 16 ^ kind.width := by
  cases kind with
  | xor => exact UInt8.toNat_lt _
  | crc => exact BitVec.isLt _
  | sum => exact UInt8.toNat_lt _

/-- A checksum is written as the field of the bytes in front of it. -/
theorem Check.isFieldOf_render (kind : Check) (output : Text) :
    kind.IsFieldOf (Utf8.encode output) (kind.render output) := by
  have hwidth : 0 < kind.width := by cases kind <;> decide
  rw [Check.render_eq]
  refine ⟨Numeral.length_hex hwidth (kind.sumOf_lt _), fun c hc => ?_,
    _, Numeral.natural?_hex _ _, Check.isSumOf_iff.2 rfl⟩
  obtain ⟨d, hd, rfl⟩ := Numeral.exists_hexDigit_of_mem_hex hc
  have hall : ∀ d < 16, Numeral.hexDigit d ∈ "0123456789ABCDEF".toList := by decide
  exact hall d hd

/-! ## Units -/

/-- The field of a unit. Without a width it is the unit itself. In a field of a width stands as much
of the unit as fits, and blanks up to the width. -/
structure IsUnitField (width : Nat) (unit field : Text) : Prop where
  whole : width = 0 → field = unit
  length_eq : width ≠ 0 → field.length = width
  padded : width ≠ 0 → ∃ shown blanks, field = shown ++ List.replicate blanks ' ' ∧
    shown <+: unit ∧ Utf8.size shown ≤ width ∧
      ∀ front, front <+: unit → Utf8.size front ≤ width → front <+: shown

/-- A unit is written into its field. -/
theorem isUnitField_fitUnit (width : Nat) (unit : Text) :
    IsUnitField width unit (fitUnit width unit) := by
  rw [fitUnit]
  split
  · rename_i hzero
    exact ⟨fun _ => rfl, fun hne => absurd hzero hne, fun hne => absurd hzero hne⟩
  · rename_i hne
    have hsize := Utf8.size_takeBytes_le width unit
    have hlength := Nat.le_trans (Utf8.length_le_size _) hsize
    refine ⟨fun hzero => absurd hzero hne, fun _ => ?_, fun _ => ⟨_, _, rfl,
      Utf8.takeBytes_prefix _ _, hsize, fun front => Utf8.prefix_takeBytes⟩⟩
    rw [Text.padRight, List.length_append, List.length_replicate]
    omega

/-! ## The order of the output -/

/-- What follows the output of a front is what the next item adds there, whatever comes behind. -/
theorem evaluate_prefix_cons (a b : List (Item V)) (item : Item V) :
    (item.emit words snapshot (emit words snapshot a Emission.empty)).output <+:
      evaluate words snapshot (a ++ item :: b) := by
  rw [evaluate, emit_append]
  exact output_prefix_emit b _

/-- For every vocabulary, the output of a list of items starts with that of its front. A checksum
behind the front is that of the bytes of this output and of no others, and a unit is that of the
last variable of the front that has one, whatever follows. So formats with a common front have the
output of the front in common. -/
theorem evaluates_in_order (words : Vocabulary V S) (snapshot : S) (a : List (Item V)) :
    (∀ b, evaluate words snapshot a <+: evaluate words snapshot (a ++ b)) ∧
    (∀ kind : Check, ∃ field, kind.IsFieldOf (Utf8.encode (evaluate words snapshot a)) field ∧
      ∀ b, evaluate words snapshot a ++ field <+:
        evaluate words snapshot (a ++ .check kind :: b)) ∧
    (∀ width, ∃ field, IsUnitField width (lastUnit words snapshot a) field ∧
      ∀ b, evaluate words snapshot a ++ field <+:
        evaluate words snapshot (a ++ .unit width :: b)) ∧
    ∀ b c, (evaluate words snapshot (a ++ b)).take (evaluate words snapshot a).length =
      (evaluate words snapshot (a ++ c)).take (evaluate words snapshot a).length := by
  have hfront : ∀ b, evaluate words snapshot a <+: evaluate words snapshot (a ++ b) := by
    intro b
    rw [evaluate_append]
    exact output_prefix_emit b _
  refine ⟨hfront, fun kind => ?_, fun width => ?_, fun b c => ?_⟩
  · refine ⟨_, kind.isFieldOf_render _, fun b => ?_⟩
    exact evaluate_prefix_cons a b (.check kind)
  · refine ⟨_, isUnitField_fitUnit width _, fun b => ?_⟩
    have hunit : ((Item.unit width).emit words snapshot
        (emit words snapshot a Emission.empty)).output <+:
          evaluate words snapshot (a ++ .unit width :: b) := evaluate_prefix_cons a b _
    rwa [emit_empty] at hunit
  · rw [← List.prefix_iff_eq_take.1 (hfront b), ← List.prefix_iff_eq_take.1 (hfront c)]

/-- The checks of the nine digits, each of them about the checks in front of it as well. -/
example : evaluate words snapshot
    [.literal "123456789".toList, .check .crc, .check .xor, .check .sum] =
      "12345678929B14928".toList := by cbv

end Format

end WeatherBus
