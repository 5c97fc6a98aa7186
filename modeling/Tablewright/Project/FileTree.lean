import Tablewright.Path
import Tablewright.Text.Hex

/-!
# File trees

The files and directories that a run knows. A place is the list of names that lead to it from the working
directory; a path is resolved to a place step by step, through directories only. Places outside the
working directory begin with `/` or `..`.
-/

namespace Tablewright

/-- What stands at a place. -/
inductive FileEntry where
  | directory
  | file (bytes : List UInt8)
  deriving DecidableEq

/-- Files and directories by their places; the working directory itself is not among them. -/
structure FileTree where
  entries : List (List String × FileEntry)

namespace FileTree

/-- A tree with nothing in it. -/
def empty : FileTree := ⟨[]⟩

variable (t : FileTree)

/-- What stands at a place. -/
def get? (place : List String) : Option FileEntry :=
  if place.isEmpty then some .directory else t.entries.lookup place

/-- The tree with something at a place. -/
def insert (place : List String) (entry : FileEntry) : FileTree :=
  ⟨(place, entry) :: t.entries.filter (·.1 != place)⟩

/-- Whether there is a directory at a place. -/
def isDirectory (place : List String) : Bool :=
  t.get? place = some .directory

/-- The place above another. -/
def placeAbove (place : List String) : List String :=
  if place.all (· == PathPart.parent.text) then place ++ [PathPart.parent.text]
  else if place == [PathPart.root.text] then place
  else place.dropLast

/-- The place that a step leads to. -/
def step (place : List String) : PathPart → List String
  | .root => [PathPart.root.text]
  | .current => place
  | .parent => placeAbove place
  | .name s => place ++ [s]

/-- The place that steps lead to from another. All that is passed has to be a directory. -/
def follow? (place : List String) : List PathPart → Option (List String)
  | [] => some place
  | part :: rest => if t.isDirectory place then follow? (step place part) rest else none

/-- The place of a path, and what stands there. -/
def find? (path : String) : Option (List String × FileEntry) :=
  if path.isEmpty then none
  else do
    let place ← t.follow? [] (Path.parts path)
    let entry ← t.get? place
    if Path.isDirectoryPath path && entry != .directory then none else some (place, entry)

/-- The text of a file; none if there is no file or it holds no text. -/
def read? (path : String) : Option String :=
  match t.find? path with
  | some (_, .file bytes) => Text.ofUtf8? bytes
  | _ => none

/-- The files at a path or below it, each with the path by which it is found. -/
def filesUnder (path : String) : List (String × List UInt8) :=
  match t.find? path with
  | none => []
  | some (_, .file bytes) => [(path, bytes)]
  | some (place, .directory) =>
    t.entries.filterMap fun
      | (inner, .file bytes) =>
        if place.isPrefixOf inner then
          some (Path.join path (String.intercalate "/" (inner.drop place.length)), bytes)
        else none
      | (_, .directory) => none

/-- The tree with all directories on a way; none if the way leads through a file or over a place that is
not known. -/
def withDirectories? (t : FileTree) (place : List String) : List PathPart → Option FileTree
  | [] => some t
  | part :: rest =>
    let next := step place part
    match t.get? next, part with
    | some .directory, _ => withDirectories? t next rest
    | some (.file _), _ => none
    | none, .name _ => withDirectories? (t.insert next .directory) next rest
    | none, _ => none

/-- The tree with a file at a path, whose directory has to be there. -/
def withFile? (path : String) (bytes : List UInt8) : Option FileTree :=
  if path.isEmpty || Path.isDirectoryPath path then none
  else do
    let place ← t.follow? [] (Path.parts path)
    if t.isDirectory place then none else some (t.insert place (.file bytes))

/-- The places and bytes of the files that another tree does not have with these bytes. -/
def changedSince (before : FileTree) : List (List String × List UInt8) :=
  t.entries.filterMap fun (place, entry) =>
    match entry with
    | .directory => none
    | .file bytes => if before.get? place = some entry then none else some (place, bytes)

/-! ## Views -/

@[simp] theorem get?_nil : t.get? [] = some .directory := rfl

theorem lookup_filter_ne {place other : List String} (h : other ≠ place)
    (entries : List (List String × FileEntry)) :
    (entries.filter (·.1 != place)).lookup other = entries.lookup other := by
  induction entries with
  | nil => rfl
  | cons e rest ih =>
    obtain ⟨p, entry⟩ := e
    by_cases hp : p = place
    · subst hp
      have : (other == p) = false := by simp [h]
      simp [List.lookup_cons, this, ih]
    · by_cases ho : other = p
      · subst ho; simp [hp]
      · have : (other == p) = false := by simp [ho]
        simp [hp, List.lookup_cons, this, ih]

/-- What is put at a place stands there. -/
theorem get?_insert_self {place : List String} (h : place ≠ []) (entry : FileEntry) :
    (t.insert place entry).get? place = some entry := by
  simp [get?, insert, h]

/-- What is put at a place changes no other. -/
theorem get?_insert_of_ne {place other : List String} (h : other ≠ place) (entry : FileEntry) :
    (t.insert place entry).get? other = t.get? other := by
  have hne : (other == place) = false := by simp [h]
  simp [get?, insert, List.lookup_cons, hne, lookup_filter_ne h]

end FileTree

end Tablewright
