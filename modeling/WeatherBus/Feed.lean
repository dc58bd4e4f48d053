import WeatherBus.Failure

/-! # The measurement feed

A feed delivers one line of measurements after the other.

* **`Feed.next`** — the next line, and the feed behind it;
* **`Feed.nextEntry`** — the next line of a file that holds data: blank lines and comments are
  skipped, a line that is no text is not delivered but counts;
* **`Feed.ofPath`** — the feed of a file. -/

namespace WeatherBus

namespace Feed

/-! ## Lines of a file -/

/-- The byte at which a line of a file ends. -/
def newline : UInt8 := 0x0A

/-- The first line of some bytes, its end included, and the bytes behind it. -/
def takeLine : Bytes → Bytes × Bytes
  | [] => ([], [])
  | b :: rest =>
    if b = newline then ([b], rest)
    else
      let (line, behind) := takeLine rest
      (b :: line, behind)

/-- Reading a line takes at least its first byte. -/
theorem length_takeLine_lt (b : UInt8) (bytes : Bytes) :
    (takeLine (b :: bytes)).2.length < (b :: bytes).length := by
  induction bytes generalizing b with
  | nil =>
    simp only [takeLine]
    split <;> simp
  | cons c rest ih =>
    rw [takeLine]
    split
    · simp
    · exact Nat.lt_succ_of_lt (ih c)

/-- What a line of a file delivers. -/
inductive Entry where
  /-- A line of data. -/
  | data (line : Text)
  /-- A line that is no text. -/
  | broken
deriving DecidableEq, Repr

/-- What the bytes of a line deliver, `none` for a blank line and for a comment. -/
def entryOf? (line : Bytes) : Option Entry :=
  match Utf8.decode? line with
  | none => some .broken
  | some text =>
    let text := Text.trim text
    if text.isEmpty || text.head? = some '#' then none else some (.data text)

/-- The first entry of some bytes and the bytes behind it, `none` if there is none up to their
end. -/
def nextEntry : Bytes → Option (Entry × Bytes)
  | [] => none
  | b :: rest =>
    match entryOf? (takeLine (b :: rest)).1 with
    | some entry => some (entry, (takeLine (b :: rest)).2)
    | none => nextEntry (takeLine (b :: rest)).2
termination_by bytes => bytes.length
decreasing_by exact length_takeLine_lt b rest

end Feed

/-- A source of measurement lines. -/
inductive Feed where
  /-- Lines that are delivered once. -/
  | once (rest : List Text)
  /-- Lines that are delivered over and over again. -/
  | cycling (lines rest : List Text)
  /-- A file that is read over and over again. -/
  | file (content rest : Bytes)
deriving DecidableEq, Repr

namespace Feed

/-- A feed at the start of a file. -/
def ofFile (content : Bytes) : Feed := .file content content

/-- A feed at the start of some lines. -/
def ofLines (restarts : Bool) (lines : List Text) : Feed :=
  if restarts then .cycling lines lines else .once lines

/-- The line of an entry. -/
def Entry.line? : Entry → Option Text
  | .data line => some line
  | .broken => none

/-- The next line, if there is one, and the feed behind it. A file without any entry stays at its
end. -/
def next : Feed → Option Text × Feed
  | .once [] => (none, .once [])
  | .once (line :: rest) => (some line, .once rest)
  | .cycling lines (line :: rest) => (some line, .cycling lines rest)
  | .cycling [] [] => (none, .cycling [] [])
  | .cycling (line :: rest) [] => (some line, .cycling (line :: rest) rest)
  | .file content rest =>
    match (nextEntry rest).or (nextEntry content) with
    | some (entry, behind) => (entry.line?, .file content behind)
    | none => (none, .file content [])

/-- The feed of the file at a path. -/
def ofPath (files : Files) (path : Text) : Except Failure Feed :=
  match files.read path with
  | .ok content => .ok (ofFile content)
  | .error problem => .error (.feedUnavailable path problem)

end Feed

end WeatherBus
