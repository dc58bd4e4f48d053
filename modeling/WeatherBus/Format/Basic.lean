import WeatherBus.Checksum
import WeatherBus.Number.Decimal

/-! # Output formats

A format is a list of items that are written one after the other.

* **`Value.render`** — a value in a field of a width, with a number of decimals;
* **`Vocabulary`** — the variables of one kind of instrument and what they stand for;
* **`Item.emit`** — what one item adds to the output, **`evaluate`** all items from the first to the
  last; `evaluate_append` says that a list of items goes on where the list before it stopped. -/

namespace WeatherBus

/-- The value of a variable. -/
inductive Value where
  | number (x : Float)
  | integer (n : Int)
  | text (t : Text)
  /-- There is no value at the moment. -/
  | missing
deriving DecidableEq, Repr

/-- The width of a number whose format names no width. -/
def Value.naturalWidth : Nat := 7

/-- The decimals of a number whose format names no width. -/
def Value.naturalPrecision : Nat := 2

/-- A value at the right end of a field. Width 0 stands for no width. -/
def Value.render (width precision : Nat) : Value → Text
  | .number x =>
    if width = 0 then Text.padLeft naturalWidth (Decimal.fixed naturalPrecision x)
    else Text.padLeft width (Decimal.fixed precision x)
  | .integer n => Text.padLeft width (Numeral.ofInt n)
  | .text t => Text.padLeft width t
  | .missing => List.replicate (if width = 0 then naturalWidth else width) '*'

namespace Format

/-- The checksums that a format can write of its own output. -/
inductive Check where
  /-- Exclusive or, two digits. -/
  | xor
  /-- Cyclic redundancy check, four digits. -/
  | crc
  /-- Sum modulo 256, two digits. -/
  | sum
deriving DecidableEq, Repr

/-- The hexadecimal digits of a checksum of some output. -/
def Check.render (check : Check) (output : Text) : Text :=
  match check with
  | .xor => Numeral.hex 2 (Checksum.xor (Utf8.encode output)).toNat
  | .crc => Numeral.hex 4 (Checksum.ccitt (Utf8.encode output)).toNat
  | .sum => Numeral.hex 2 (Checksum.sum (Utf8.encode output)).toNat

/-- One item of a format over variables of type `V`. -/
inductive Item (V : Type) where
  /-- Text that is copied. -/
  | literal (text : Text)
  /-- The value of a variable. Width 0 stands for no width. -/
  | quantity (name : V) (width precision : Nat)
  /-- The unit of the last variable that has one. Width 0 stands for no width. -/
  | unit (width : Nat)
  /-- A checksum of all output in front of it. -/
  | check (kind : Check)
deriving DecidableEq, Repr

/-- The variables of one kind of instrument, evaluated against a snapshot of type `S`. -/
structure Vocabulary (V S : Type) where
  /-- All variables. -/
  known : List V
  /-- The name of a variable. -/
  name : V → Text
  /-- The value of a variable. -/
  value : V → S → Value
  /-- The unit of a variable, if it has one. -/
  unit : V → S → Option Text
  /-- The unit that is written where no variable with a unit comes before. -/
  fallbackUnit : S → Text
  /-- Each name takes something of a text in which it stands. -/
  name_ne_nil : ∀ v ∈ known, name v ≠ []

/-- The variables by their names. -/
def Vocabulary.table {V S : Type} (words : Vocabulary V S) : List (Text × V) :=
  words.known.map fun v => (words.name v, v)

/-- No name in the table of a vocabulary is empty. -/
theorem Vocabulary.ne_nil_of_mem_table {V S : Type} (words : Vocabulary V S) :
    ∀ entry ∈ words.table, entry.1 ≠ [] := by
  intro entry hentry
  obtain ⟨v, hv, rfl⟩ := List.mem_map.1 hentry
  exact words.name_ne_nil v hv

/-- What evaluation carries from one item to the next. -/
structure Emission where
  /-- The output so far. -/
  output : Text
  /-- The unit of the last variable that has one. -/
  unit : Option Text
deriving DecidableEq, Repr

/-- Nothing is written yet. -/
def Emission.empty : Emission := ⟨[], none⟩

/-- A unit cut or filled up to a width. Width 0 leaves it as it is. -/
def fitUnit (width : Nat) (unit : Text) : Text :=
  if width = 0 then unit else Text.padRight width (Utf8.takeBytes width unit)

/-- What one item adds. -/
def Item.emit {V S : Type} (words : Vocabulary V S) (snapshot : S) (before : Emission) :
    Item V → Emission
  | .literal text => { before with output := before.output ++ text }
  | .quantity name width precision =>
    { output := before.output ++ (words.value name snapshot).render width precision
      unit := (words.unit name snapshot).or before.unit }
  | .unit width =>
    let unit := before.unit.getD (words.fallbackUnit snapshot)
    { before with output := before.output ++ fitUnit width unit }
  | .check kind => { before with output := before.output ++ kind.render before.output }

/-- All items from the first to the last. -/
def emit {V S : Type} (words : Vocabulary V S) (snapshot : S) (items : List (Item V))
    (before : Emission) : Emission :=
  items.foldl (Item.emit words snapshot) before

/-- The output of a list of items. -/
def evaluate {V S : Type} (words : Vocabulary V S) (snapshot : S) (items : List (Item V)) : Text :=
  (emit words snapshot items Emission.empty).output

/-- A list of items goes on where the list before it stopped. -/
theorem evaluate_append {V S : Type} (words : Vocabulary V S) (snapshot : S)
    (a b : List (Item V)) :
    evaluate words snapshot (a ++ b) =
      (emit words snapshot b (emit words snapshot a Emission.empty)).output := by
  simp [evaluate, emit]

end Format

/-- A compiled format with the text it was compiled from. -/
structure Format (V : Type) where
  /-- What is written. -/
  items : List (Format.Item V)
  /-- How it was asked for. -/
  source : Text
deriving DecidableEq, Repr

/-- The output of a format. -/
def Format.output {V S : Type} (words : Format.Vocabulary V S) (snapshot : S) (format : Format V) :
    Text :=
  Format.evaluate words snapshot format.items

end WeatherBus
