import WeatherBus.Number.Reader

/-! # One line of measurements

A line of the measurement feed holds `NAME=value` pairs between commas, semicolons and blanks.

* **`Sample.parse?`** — the pairs of a line, `none` if it has none;
* **`Sample.text?`**, **`Sample.number?`** — the value of a name, the case of its letters aside. Of
  two values of a name the later one counts. -/

namespace WeatherBus

/-- Named values, at most one for each name. Names are in capitals. -/
structure Sample where
  /-- The pairs of name and value. -/
  fields : List (Text × Text)
deriving DecidableEq, Repr

namespace Sample

/-- Whether a character stands between the pairs of a line. -/
def separates (c : Char) : Bool := c == ',' || c == ';' || Text.isBlank c

/-- The name and the value of a pair. A pair needs a name, but its value may be empty. -/
def pair? (token : Text) : Option (Text × Text) :=
  match Text.cut? '=' token with
  | some (name, value) =>
    if (Text.trim name).isEmpty then none
    else some (Text.upper (Text.trim name), Text.trim value)
  | none => none

/-- Give a name a new value. -/
def put (name value : Text) (sample : Sample) : Sample :=
  ⟨(name, value) :: sample.fields.filter fun field => field.1 ≠ name⟩

/-- The pairs of a line, `none` if there are none. -/
def parse? (line : Text) : Option Sample :=
  match (Text.pieces separates line).filterMap pair? with
  | [] => none
  | pairs => some (pairs.foldl (fun sample (name, value) => sample.put name value) ⟨[]⟩)

/-- The value of a name. -/
def text? (sample : Sample) (name : Text) : Option Text :=
  sample.fields.lookup (Text.upper name)

/-- The value of a name as a number. -/
def number? (sample : Sample) (name : Text) : Option Float :=
  (sample.text? name).bind Reader.number?

/-- How many names have a value. -/
def size (sample : Sample) : Nat := sample.fields.length

end Sample

end WeatherBus
