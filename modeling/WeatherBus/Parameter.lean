import WeatherBus.Number.Reader

/-! # Parameters of a command

* **`Parameter.split`** — the parameters behind a keyword;
* **`Parameter.word?`**, **`Parameter.number?`** — one parameter by its position;
* **`Setting`** — a command that asks for a setting, changes it, or cannot be understood. -/

namespace WeatherBus

namespace Parameter

/-- Cut what follows a keyword into parameters. A blank as delimiter stands for any run of blanks.
Any other delimiter may also stand in front of the first parameter. -/
def split (delimiter : Char) (tail : Text) : List Text :=
  let tail := Text.trim tail
  if Text.isBlank delimiter then Text.words tail
  else
    let body := match tail with
      | c :: rest => if c = delimiter then rest else tail
      | [] => []
    if body.isEmpty then [] else (Text.pieces (· == delimiter) body).map Text.trim

/-- Read the parameter at a position, `none` if it is missing or cannot be read. -/
def read? {α : Type} (reader : Text → Option α) (params : List Text) (position : Nat) : Option α :=
  params[position]?.bind fun param => reader (Text.trim param)

/-- A whole number. -/
def word? : List Text → Nat → Option Int := read? Numeral.word?

/-- A number. -/
def number? : List Text → Nat → Option Float := read? Reader.number?

/-- Whether a parameter asks for the current value. -/
def isQuery (param : Text) : Bool := Text.trim param == ['?']

/-- The parameters written with single blanks between them. -/
def join (params : List Text) : Text := List.intercalate [' '] params

/-- Whether the parameters ask for the current value: there is none, or a question mark alone. -/
def asks : List Text → Bool
  | [] => true
  | [param] => isQuery param
  | _ => false

end Parameter

/-- What a command does to a setting. -/
inductive Setting (α : Type) where
  /-- Ask for its value. -/
  | query
  /-- Change it. -/
  | set (value : α)
  /-- Change it to something that cannot be understood. -/
  | invalid (text : Text)
deriving DecidableEq, Repr

/-- Read the parameters of a setting. -/
def Setting.read {α : Type} (reader : List Text → Option α) (params : List Text) : Setting α :=
  if Parameter.asks params then .query
  else match reader params with
    | some value => .set value
    | none => .invalid (Parameter.join params)

end WeatherBus
