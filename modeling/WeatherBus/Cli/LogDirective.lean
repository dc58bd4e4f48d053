import WeatherBus.Cli.LogLevel
import WeatherBus.Cli.Pattern
import WeatherBus.Number.Reader
import WeatherBus.Text.Utf8

/-! # Directives of a log filter

A directive asks for a level: for all messages, for those of a source, for those with a field, or
for those within a span, which is something that the program enters and leaves. `info`, `wxemu`,
`wxemu=debug`, `[span]`, and `wxemu[span{field=pattern}]=debug` are directives.

* **`LogDirective.read`** — the directive of a text, or the **`LogDirective.Flaw`** of the text;
* **`LogDirective.concerns`** — whether a directive is about a message;
* **`LogDirective.yieldsTo`** — whether another directive about the same message counts more. -/

namespace WeatherBus

/-- A message of the log, as far as filters look at it. -/
structure LogEvent where
  level : LogLevel
  /-- The part of the program that logs. -/
  source : Text
  /-- The names of what the message is made of. -/
  fields : List Text
deriving DecidableEq, Repr

/-- A field that a message or a span has to have. -/
structure LogField where
  name : Text
  /-- What the value of the field has to be like. -/
  value : Option Text
deriving DecidableEq, Repr

/-- One directive of a filter. -/
structure LogDirective where
  /-- What the name of the source starts with. -/
  source : Option Text := none
  /-- The name of the span. -/
  span : Option Text := none
  field : Option LogField := none
  level : LogLevel := .trace
deriving DecidableEq, Repr

namespace LogDirective

/-! ## Reading -/

/-- Why a text is no directive. -/
inductive Flaw where
  /-- It is not written like one. -/
  | malformed
  /-- One of its parts begins or ends inside of a character. -/
  | torn
deriving DecidableEq, Repr

/-- The part of a text from one position up to another, both counted in bytes. -/
def part (t : Text) (start stop : Nat) : Except Flaw Text :=
  match (Utf8.dropBytes? start t).bind (Utf8.takeBytes? (stop - start)) with
  | some part => .ok part
  | none => .error .torn

/-- The level at the end of a text, from a position on. Without any word everything is shown. -/
def levelFrom (t : Text) (start : Nat) : Except Flaw LogLevel :=
  match Utf8.dropBytes? start t with
  | none => .error .torn
  | some [] => .ok .trace
  | some word =>
    match LogLevel.ofText? word with
    | some level => .ok level
    | none => .error .malformed

/-- The level behind a closing bracket, if there is one. -/
def levelBehind (t : Text) (start : Nat) : (behind : Text) → Except Flaw LogLevel
  | [] => .ok .trace
  | '=' :: _ => levelFrom t (start + 1)
  | _ => .error .malformed

/-- Whether a text can stand for values: a number, or a pattern. -/
def isValue (t : Text) : Bool := (Reader.number? t).isSome || Pattern.isPattern t

/-- The field of a text: a name, and behind `=` what its value is like. A second `=` ends that. -/
def fieldOf (t : Text) : Except Flaw LogField :=
  match t, Text.pieces (· == '=') t with
  | [], _ => .error .malformed
  | _, name :: value :: _ =>
    if isValue value then .ok ⟨name, some value⟩ else .error .malformed
  | _, _ => .ok ⟨t, none⟩

/-- The directive of a text whose opening bracket has been read up to a position. -/
def readScope (t : Text) (source : Option Text) (start : Nat) (rest : Text) :
    Except Flaw LogDirective := do
  let endsName (c : Char) := c == ']' || c == '\x7b'
  let stop := start + Utf8.size (rest.takeWhile (!endsName ·))
  match rest.dropWhile (!endsName ·) with
  | ']' :: behind =>
    let span ← part t start stop
    let level ← levelBehind t (stop + 1) behind
    return { source, span := some span, level }
  | _ :: rest =>
    let span ← part t start stop
    let start := stop + 1
    let stop := start + Utf8.size (rest.takeWhile (· != '\x7d'))
    match rest.dropWhile (· != '\x7d') with
    | [] => throw .malformed
    | _ :: behind =>
      let field ← fieldOf (← part t start stop)
      match behind with
      | ']' :: behind =>
        let level ← levelBehind t (stop + 2) behind
        return { source, span := if span = [] then none else some span, field := some field, level }
      | _ => throw .malformed
  | [] => throw .malformed

/-- Whether the name of a source may start with a character. -/
def startsSource (c : Char) : Bool := c ∈ ['-', ':', '_'] || Text.isAlphanumeric c

/-- The directive of a text without commas. A word that is a level is not taken for a source.

The form of the text is looked at without the blanks around it, and so are the positions of its
parts counted, but the parts are cut out of the text with its blanks. So only a text without blanks
in front means what it seems to mean. -/
def read (t : Text) : Except Flaw LogDirective := do
  let form := Text.trim t
  let endsName (c : Char) := c == '=' || c == '['
  let stop := Utf8.size (form.takeWhile (!endsName ·))
  match form, form.dropWhile (!endsName ·) with
  | '[' :: rest, _ => readScope t none 1 rest
  | c :: _, behind =>
    unless startsSource c do throw .malformed
    match behind with
    | '=' :: _ =>
      let source ← part t 0 stop
      let level ← levelFrom t (stop + 1)
      return { source := some source, level }
    | _ :: rest => readScope t (some (← part t 0 stop)) (stop + 1) rest
    | [] =>
      match LogLevel.ofText? t with
      | some level => return { level }
      | none => return { source := some t }
  | [], _ => throw .malformed

/-! ## Messages -/

/-- Whether a directive is about a message. The program has no spans, so no message is within one,
and no field of one has a value. -/
def concerns (event : LogEvent) (directive : LogDirective) : Bool :=
  directive.span.isNone &&
    directive.source.all (fun start => start.isPrefixOf event.source) &&
    directive.field.all fun field => field.value.isNone && event.fields.contains field.name

/-- Whether another directive about the same message counts more: one that names more of the source,
then one that names a field, then the one whose field comes later in the alphabet. -/
def yieldsTo (directive other : LogDirective) : Bool :=
  let named (d : LogDirective) := match d.source with
    | none => 0
    | some start => start.length + 1
  let field (d : LogDirective) := match d.field with
    | none => []
    | some field => field.name
  named directive < named other || (named directive == named other &&
    List.lex (field directive) (field other) fun c d => c.toNat < d.toNat)

end LogDirective

end WeatherBus
