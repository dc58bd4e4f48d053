import WeatherBus.Number.Integer
import WeatherBus.Text.Letter

/-! # Patterns of texts

A pattern such as `a|b+` or `[0-9]*` describes texts. Which ones is not asked here, only whether a
text is a pattern. Patterns have no tables of letters: `\w` and the like, and letters for both of
their cases, can be asked for among the basic 128 characters only, behind `(?-u)`. There are no
braces, so nothing is repeated a number of times: where patterns are used, a brace ends them.

Patterns have a limited depth: groups, brackets, repetitions, alternatives, and rows of several
parts all put what is within them one level deeper.

* **`Pattern.isPattern`** — whether a text is a pattern;
* **`Pattern.Row.depth`** — how deep a row of parts goes. -/

namespace WeatherBus

namespace Pattern

/-! ## Modes -/

/-- How the characters of a pattern are read. -/
structure Mode where
  /-- Letters stand for both of their cases. -/
  foldsCase : Bool := false
  /-- A character is one of all characters, and else one of the basic 128. -/
  isWide : Bool := true
  /-- Blanks and comments are skipped. -/
  isSpaced : Bool := false
deriving DecidableEq, Repr

namespace Mode

/-- The mode with a flag on or off. Flags that change what a pattern means, but not whether it is
one, are not kept. -/
def set (mode : Mode) (flag : Char) (isOn : Bool) : Mode :=
  match flag with
  | 'i' => { mode with foldsCase := isOn }
  | 'u' => { mode with isWide := isOn }
  | 'x' => { mode with isSpaced := isOn }
  | _ => mode

/-- Whether a character may stand for itself. -/
def admits (mode : Mode) : Bool := !(mode.foldsCase && mode.isWide)

/-- Whether a character may stand for itself in a class. -/
def admitsMember (mode : Mode) (c : Char) : Bool :=
  mode.admits && (mode.isWide || c.toNat < 0x80)

end Mode

/-- What follows blanks and comments. A comment goes from `#` to the end of its line. -/
def skipBlanks : (inComment : Bool) → Text → Text
  | _, [] => []
  | true, c :: t => skipBlanks (c ≠ '\n') t
  | false, c :: t =>
    if c = '#' then skipBlanks true t
    else if Text.isBlank c then skipBlanks false t
    else c :: t

/-- What follows all that a mode skips. -/
def Mode.skip (mode : Mode) (t : Text) : Text := if mode.isSpaced then skipBlanks false t else t

/-! ## Escapes -/

/-- What a backslash and the characters behind it stand for. -/
inductive Escape where
  /-- One character. -/
  | char (c : Char)
  /-- A class of characters. -/
  | members
  /-- A place between two characters. -/
  | place
deriving DecidableEq, Repr

/-- The number of some hexadecimal digits, and what follows them. -/
def hexDigits? (mode : Mode) : (count high : Nat) → Text → Option (Nat × Text)
  | 0, high, t => some (high, mode.skip t)
  | count + 1, high, t =>
    match mode.skip t with
    | [] => none
    | c :: t => (Numeral.digit? 16 c).bind fun digit => hexDigits? mode count (high * 16 + digit) t

/-- The character with the number that some hexadecimal digits write, and what follows them. -/
def numbered? (mode : Mode) (count : Nat) (t : Text) : Option (Char × Text) :=
  (hexDigits? mode count 0 t).bind fun (n, t) =>
    if n.isValidChar then some (Char.ofNat n, t) else none

/-- The controls with an escape of their own. -/
def controls : List (Char × Char) :=
  [('a', '\x07'), ('t', '\t'), ('n', '\n'), ('v', '\x0b'), ('f', '\x0c'), ('r', '\r')]

/-- The escape behind a backslash, and what follows it. Basic characters other than letters and
digits stand for themselves, `<` and `>` aside, which are the ends of words. -/
def escape? (mode : Mode) : Text → Option (Escape × Text)
  | [] => none
  | c :: t =>
    let char (found : Char × Text) := (Escape.char found.1, found.2)
    if c = 'x' then
      ((numbered? mode 2 t).filter fun found => mode.isWide || found.1.toNat < 0x80).map char
    else if c = 'u' then (numbered? mode 4 t).map char
    else if c = 'U' then (numbered? mode 8 t).map char
    else if c ∈ ['A', 'z'] then some (.place, t)
    else if c ∈ ['b', 'B', '<', '>'] then if mode.isWide then none else some (.place, t)
    else if c ∈ ['d', 's', 'w'] then if mode.isWide then none else some (.members, t)
    else if c.toNat < 0x80 && !c.isAlphanum then some (.char c, t)
    else (controls.lookup c).map fun control => (.char control, t)

/-! ## Depth -/

/-- Parts one behind the other, as far as their depth goes. -/
structure Row where
  /-- The number of the parts. -/
  count : Nat := 0
  /-- The depth of the last part. -/
  last : Nat := 0
  /-- The greatest depth of a part. -/
  deepest : Nat := 0
deriving DecidableEq, Repr

namespace Row

/-- A row with one more part. -/
def push (row : Row) (depth : Nat) : Row :=
  ⟨row.count + 1, depth, Nat.max row.deepest depth⟩

/-- A row whose last part is repeated. -/
def repeatLast (row : Row) : Row :=
  { row with last := row.last + 1, deepest := Nat.max row.deepest (row.last + 1) }

/-- The depth of a row. Several parts are one level deeper than a single one. -/
def depth (row : Row) : Nat := if 1 < row.count then row.deepest + 1 else row.deepest

end Row

/-! ## Classes in brackets -/

/-- The classes of basic characters that have a name. -/
def classNames : List Text :=
  ["alnum", "alpha", "ascii", "blank", "cntrl", "digit", "graph", "lower", "print", "punct",
    "space", "upper", "word", "xdigit"].map String.toList

/-- What follows a named class such as `[:digit:]` or `[:^digit:]`, whose first bracket has been
read. The opposite of a class goes beyond the basic characters. -/
def namedClass? : Text → Option (Bool × Text)
  | ':' :: t =>
    let (isOpposite, t) := match t with
      | '^' :: t => (true, t)
      | _ => (false, t)
    match Text.cut? ':' t with
    | some (name, ']' :: t) => if name ∈ classNames then some (isOpposite, t) else none
    | _ => none
  | _ => none

/-- One member of a class, `none` for a class of its own, and what follows it. -/
def item? (mode : Mode) : Text → Option (Option Char × Text)
  | [] => none
  | '\\' :: t =>
    match escape? mode t with
    | some (.char c, t) => if mode.admitsMember c then some (some c, t) else none
    | some (.members, t) => some (none, t)
    | _ => none
  | c :: t => if mode.admitsMember c then some (some c, t) else none

/-- What follows a member of a class or a range of members. A hyphen in front of the end of the
class, or in front of another hyphen, makes no range. -/
def range? (mode : Mode) (t : Text) : Option Text := do
  let (low, t) ← item? mode t
  match mode.skip t with
  | [] => none
  | '-' :: behind =>
    match mode.skip behind with
    | ']' :: _ | '-' :: _ => return '-' :: behind
    | behind =>
      let (high, rest) ← item? mode behind
      if (← low).toNat ≤ (← high).toNat then return rest else none
  | t => return t

/-- How far a class has been read. -/
inductive ClassPart where
  /-- Nothing but its bracket and the mark of its opposite. -/
  | start
  /-- Hyphens, which stand for themselves here. -/
  | hyphens
  /-- More than that. -/
  | members
deriving DecidableEq, Repr

/-- What follows the mark of the opposite of a class, if there is one. The opposite goes beyond the
basic characters. -/
def opposite? (mode : Mode) (t : Text) : Option Text :=
  match mode.skip t with
  | '^' :: t => if mode.isWide then some t else none
  | t => some t

/-- A class in brackets that is still open. -/
structure OpenClass where
  /-- The depth of what stands in front of the last `&&`, `--` or `~~`, if there is one. -/
  combined : Option Nat := none
  /-- The members behind that. -/
  members : Row := {}
deriving Repr

namespace OpenClass

/-- A class with one more member. -/
def push (c : OpenClass) (depth : Nat) : OpenClass := { c with members := c.members.push depth }

/-- The depth of what is in the brackets. -/
def depth (c : OpenClass) : Nat :=
  match c.combined with
  | none => c.members.depth
  | some depth => Nat.max depth c.members.depth + 1

/-- A class behind one more `&&`, `--` or `~~`. -/
def combine (c : OpenClass) : OpenClass := { combined := some c.depth }

end OpenClass

/-- The depth of a class and what follows it, for the class `c` within some others that are open. -/
def class? (mode : Mode) :
    (fuel : Nat) → (around : List OpenClass) → (c : OpenClass) → ClassPart → Text →
      Option (Nat × Text)
  | 0, _, _, _, _ => none
  | fuel + 1, around, c, part, t =>
    match part, mode.skip t with
    | _, [] => none
    | .start, ']' :: t =>
      if mode.admits then class? mode fuel around (c.push 0) .members t else none
    | .start, '-' :: t | .hyphens, '-' :: t =>
      if mode.admits then class? mode fuel around (c.push 0) .hyphens t else none
    | _, '[' :: t =>
      match namedClass? t with
      | some (isOpposite, t) =>
        if mode.admits && (mode.isWide || !isOpposite) then
          class? mode fuel around (c.push 0) .members t
        else none
      | none => (opposite? mode t).bind (class? mode fuel (c :: around) {} .start)
    | _, ']' :: t =>
      match around with
      | [] => some (c.depth + 1, t)
      | outer :: around => class? mode fuel around (outer.push (c.depth + 1)) .members t
    | _, '&' :: '&' :: t | _, '-' :: '-' :: t | _, '~' :: '~' :: t =>
      class? mode fuel around c.combine .members t
    | _, t => (range? mode t).bind (class? mode fuel around (c.push 0) .members)

/-! ## Groups -/

/-- What a round bracket starts. -/
inductive Opening where
  /-- A group, read in a mode. -/
  | group (mode : Mode) (name : Option Text)
  /-- No group, but another mode from here on. -/
  | change (mode : Mode)
deriving DecidableEq, Repr

/-- Whether a text can name a group. -/
def isGroupName : Text → Bool
  | [] => false
  | c :: t =>
    (c == '_' || Text.isLetter c) &&
      t.all fun c => c ∈ ['_', '.', '[', ']'] || Text.isAlphanumeric c

/-- What some flags start, and what follows them. Behind a hyphen flags are off, and something has
to be. No flag comes twice. -/
def flags? (mode : Mode) (seen : Text) : Text → Option (Opening × Text)
  | [] => none
  | c :: t =>
    if c = ':' || c = ')' then
      if seen.head? = some '-' then none
      else if c = ':' then some (.group mode none, t)
      else if seen = [] then none
      else some (.change mode, t)
    else if c ∈ ['i', 'm', 's', 'U', 'u', 'R', 'x', '-'] && c ∉ seen then
      flags? (mode.set c ('-' ∉ seen)) (c :: seen) t
    else none

/-- What a round bracket starts, and what follows it. -/
def opening? (mode : Mode) (t : Text) : Option (Opening × Text) :=
  let named (t : Text) := (Text.cut? '>' t).bind fun (name, t) =>
    if isGroupName name then some (.group mode (some name), t) else none
  match mode.skip t with
  | '?' :: 'P' :: '<' :: t | '?' :: '<' :: t => named t
  | '?' :: t => flags? mode [] t
  | t => some (.group mode none, t)

/-! ## Patterns -/

/-- A group that is still open, or the pattern as a whole. -/
structure OpenGroup where
  mode : Mode := {}
  /-- The alternatives that are finished. -/
  alternatives : Row := {}
  /-- The parts of the alternative at hand. -/
  parts : Row := {}
  /-- Whether the last part can be repeated. -/
  isRepeatable : Bool := false
deriving Repr

namespace OpenGroup

/-- A group with one more part, which can be repeated. -/
def push (group : OpenGroup) (depth : Nat) : OpenGroup :=
  { group with parts := group.parts.push depth, isRepeatable := true }

/-- A group with another mode from here on. The change counts as a part. -/
def change (group : OpenGroup) (mode : Mode) : OpenGroup :=
  { group with mode, parts := group.parts.push 0, isRepeatable := false }

/-- A group whose last part is repeated. -/
def repeatLast? (group : OpenGroup) : Option OpenGroup :=
  if group.isRepeatable then some { group with parts := group.parts.repeatLast } else none

/-- A group whose alternative at hand is finished. -/
def finish (group : OpenGroup) : OpenGroup :=
  { mode := group.mode, alternatives := group.alternatives.push group.parts.depth }

/-- The depth of what is in a group. -/
def depth (group : OpenGroup) : Nat := group.finish.alternatives.depth

end OpenGroup

/-- Where the reading of a pattern stands. -/
structure Reading where
  group : OpenGroup := {}
  /-- The groups around that, from the inside out. -/
  around : List OpenGroup := []
  /-- The names of groups so far. -/
  names : List Text := []
deriving Repr

namespace Reading

/-- The reading behind one more part. -/
def push (reading : Reading) (depth : Nat) : Reading :=
  { reading with group := reading.group.push depth }

/-- The reading behind an opening round bracket. A name is given to one group only. -/
def enter? (reading : Reading) : Opening → Option Reading
  | .change mode => some { reading with group := reading.group.change mode }
  | .group mode name =>
    if name.any (· ∈ reading.names) then none
    else some {
      group := { mode }
      around := reading.group :: reading.around
      names := name.toList ++ reading.names }

/-- The reading behind a closing round bracket. -/
def leave? (reading : Reading) : Option Reading :=
  match reading.around with
  | [] => none
  | outer :: around =>
    some { reading with group := outer.push (reading.group.depth + 1), around }

/-- The reading behind a repetition. -/
def repeatLast? (reading : Reading) : Option Reading :=
  reading.group.repeatLast?.map fun group => { reading with group }

end Reading

/-- One step through a pattern: the reading behind a character and what belongs to it. -/
def step? (reading : Reading) (fuel : Nat) (c : Char) (t : Text) : Option (Reading × Text) :=
  let mode := reading.group.mode
  let part (canStand : Bool) (t : Text) := if canStand then some (reading.push 0, t) else none
  match c with
  | '(' => (opening? mode t).bind fun (opening, t) => (reading.enter? opening).map (·, t)
  | ')' => reading.leave?.map (·, t)
  | '|' => some ({ reading with group := reading.group.finish }, t)
  | '[' =>
    (opposite? mode t).bind fun t =>
      (class? mode fuel [] {} .start t).map fun (depth, t) => (reading.push depth, t)
  | '?' | '*' | '+' =>
    match t with
    | '?' :: t => reading.repeatLast?.map (·, t)
    | t => reading.repeatLast?.map (·, t)
  | '\x7b' => none
  | '\\' =>
    (escape? mode t).bind fun (escape, t) =>
      match escape with
      | .char _ => part mode.admits t
      | _ => part true t
  | '.' => part mode.isWide t
  | '^' | '$' => part true t
  | _ => part mode.admits t

/-- The depth of the pattern that a text goes on as, for a text shorter than `fuel`. -/
def depth? : (fuel : Nat) → Reading → Text → Option Nat
  | 0, _, _ => none
  | fuel + 1, reading, t =>
    match reading.group.mode.skip t with
    | [] => if reading.around.isEmpty then some reading.group.depth else none
    | c :: t => (step? reading fuel c t).bind fun (reading, t) => depth? fuel reading t

/-- The depth that a pattern may have. -/
def maxDepth : Nat := 250

end Pattern

/-- Whether a text is a pattern. -/
def Pattern.isPattern (t : Text) : Bool := (depth? (t.length + 1) {} t).any (· ≤ maxDepth)

end WeatherBus
