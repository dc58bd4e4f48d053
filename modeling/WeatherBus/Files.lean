import WeatherBus.Text.Utf8

/-! # Files

What a path leads to, and why it may lead to nothing.

* **`FileProblem`** — why a file cannot be opened, **`FileProblem.message`** — its wording;
* **`Files.read`** — the content of the file at a path;
* **`Files.portProblem`** — why there is no serial port at a path. -/

namespace WeatherBus

/-- Why a file cannot be opened. -/
inductive FileProblem where
  /-- There is nothing under a name. -/
  | missing
  /-- The path leads through something that is no directory. -/
  | notDirectory
  /-- A name or the whole path is too long. -/
  | nameTooLong
  /-- A character of the path cannot be part of one. -/
  | nullCharacter
  /-- Another problem, with its wording. -/
  | other (wording : String)
deriving DecidableEq, Repr

namespace FileProblem

/-- The short wording of a problem. -/
def reason : FileProblem → String
  | .missing => "No such file or directory"
  | .notDirectory => "Not a directory"
  | .nameTooLong => "File name too long"
  | .nullCharacter => "Invalid argument"
  | .other wording => wording

/-- The wording of a problem, with its number at the operating system. -/
def message : FileProblem → String
  | .missing => FileProblem.missing.reason ++ " (os error 2)"
  | .notDirectory => FileProblem.notDirectory.reason ++ " (os error 20)"
  | .nameTooLong => FileProblem.nameTooLong.reason ++ " (os error 36)"
  | .nullCharacter => "file name contained an unexpected NUL byte"
  | .other wording => wording

end FileProblem

/-- What is found under a name. -/
inductive FileTree where
  | file (content : Bytes)
  | directory (entries : List (Text × FileTree))

/-- A place among the files: what is there, and the directories around it from the inside out. -/
structure FilePlace where
  here : FileTree
  around : List FileTree := []

/-- The files that can be reached. -/
structure Files where
  /-- What an absolute path starts from. -/
  root : FileTree
  /-- What any other path starts from. -/
  workplace : FilePlace := ⟨root, []⟩

namespace Files

/-- The number of bytes that a name may have. -/
def maxName : Nat := 255

/-- The number of bytes that a path may have. -/
def maxPath : Nat := 4095

/-- The place that a name leads to. The empty name and a single point stay in the directory, two
points lead out of it. -/
def step (place : FilePlace) (name : Text) : Except FileProblem FilePlace :=
  match place.here with
  | .file _ => .error .notDirectory
  | .directory entries =>
    if name = [] || name = ['.'] then .ok place
    else if name = ['.', '.'] then
      match place.around with
      | [] => .ok place
      | outer :: others => .ok ⟨outer, others⟩
    else if maxName < Utf8.size name then .error .nameTooLong
    else match entries.lookup name with
      | some found => .ok ⟨found, place.here :: place.around⟩
      | none => .error .missing

/-- The place that names lead to, one after the other. -/
def walk (place : FilePlace) : (names : List Text) → Except FileProblem FilePlace
  | [] => .ok place
  | name :: names =>
    match step place name with
    | .ok next => walk next names
    | .error problem => .error problem

/-- What is found at a path. -/
def find (files : Files) (path : Text) : Except FileProblem FileTree :=
  if path.contains '\x00' then .error .nullCharacter
  else if maxPath < Utf8.size path then .error .nameTooLong
  else
    match path with
    | [] => .error .missing
    | '/' :: path => (walk ⟨files.root, []⟩ (Text.pieces (· == '/') path)).map FilePlace.here
    | path => (walk files.workplace (Text.pieces (· == '/') path)).map FilePlace.here

/-- The bytes that can be read at a path. A directory can be opened, but has none. -/
def read (files : Files) (path : Text) : Except FileProblem Bytes :=
  match files.find path with
  | .ok (.file content) => .ok content
  | .ok (.directory _) => .ok []
  | .error problem => .error problem

/-- Why there is no serial port at a path: a file with a content is none. -/
def portProblem (files : Files) (path : Text) : FileProblem :=
  match files.find path with
  | .ok (.file _) => .other "Not a typewriter"
  | .ok (.directory _) => .other "Is a directory"
  | .error problem => problem

end Files

end WeatherBus
