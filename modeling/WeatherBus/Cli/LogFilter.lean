import WeatherBus.Cli.LogDirective

/-! # Log filters

A filter is a list of directives between commas. Of the directives about a message one counts, and
gives the level that is asked for.

* **`LogFilter.read`** — a filter all of whose directives can be read, **`LogFilter.readValid`** —
  the directives of a text that can be read;
* **`LogFilter.shows`** — whether a message gets through. -/

namespace WeatherBus

/-- A list of directives. -/
structure LogFilter where
  directives : List LogDirective
deriving DecidableEq, Repr

namespace LogFilter

/-- The texts of the directives of a filter. Nothing between two commas is no directive. -/
def parts (t : Text) : List Text := (Text.pieces (· == ',') t).filter (· ≠ [])

/-- A filter all of whose directives can be read, and else the flaw of the first one that cannot. -/
def read (t : Text) : Except LogDirective.Flaw LogFilter :=
  ((parts t).mapM LogDirective.read).map LogFilter.mk

/-- The directives among some texts. `none` if one of them is torn. -/
def valid? : List Text → Option (List LogDirective)
  | [] => some []
  | text :: texts =>
    match LogDirective.read text with
    | .ok directive => (valid? texts).map (directive :: ·)
    | .error .malformed => valid? texts
    | .error .torn => none

/-- The filter of those directives that can be read. Without any, errors get through. `none` if a
text that is no directive is torn. -/
def readValid (t : Text) : Option LogFilter :=
  (valid? (parts t)).map fun directives =>
    ⟨if directives.isEmpty then [{ level := .error }] else directives⟩

/-- The directive that counts for a message: of two that count the same it is the later one. -/
def directive? (event : LogEvent) (filter : LogFilter) : Option LogDirective :=
  (filter.directives.filter (·.concerns event)).foldl (fun best directive =>
    if best.any directive.yieldsTo then best else some directive) none

/-- Whether a message gets through. -/
def shows (event : LogEvent) (filter : LogFilter) : Bool :=
  (filter.directive? event).any fun directive => event.level.shows directive.level

end LogFilter

end WeatherBus
