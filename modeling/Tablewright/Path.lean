import Tablewright.Text.Split

/-!
# Paths of files

Paths are kept as they are written. `Path.parts` reads one as a list of steps; order, prefixes and
modules are said in terms of the steps, so that doubled or trailing separators make no difference.
-/

namespace Tablewright

/-- One step of a path. -/
inductive PathPart where
  | root
  /-- The directory itself; only a path that begins with it has this step. -/
  | current
  | parent
  | name (s : String)
  deriving DecidableEq, Repr

namespace PathPart

/-- The text of the step. -/
def text : PathPart → String
  | root => "/"
  | current => "."
  | parent => ".."
  | name s => s

/-- The place of a kind of step among the others. -/
def rank : PathPart → Nat
  | root => 0
  | current => 1
  | parent => 2
  | name _ => 3

/-- The order of steps: by kind, names by their text. -/
def compare (a b : PathPart) : Ordering :=
  match a, b with
  | name s, name t => Ord.compare s t
  | a, b => Ord.compare a.rank b.rank

end PathPart

namespace Path

/-- The step that a piece between separators stands for. -/
def partOf (piece : List Char) : PathPart :=
  if piece = ['.', '.'] then .parent else .name (String.ofList piece)

/-- The steps of a path. -/
def parts (path : String) : List PathPart :=
  let pieces := Text.split ['/'] path.toList
  let lead := match pieces with
    | [] :: _ :: _ => [PathPart.root]
    | ['.'] :: _ => [PathPart.current]
    | _ => []
  lead ++ (pieces.filter fun p => !p.isEmpty && p != ['.']).map partOf

/-- The order of lists of steps. -/
def compareParts : List PathPart → List PathPart → Ordering
  | [], [] => .eq
  | [], _ :: _ => .lt
  | _ :: _, [] => .gt
  | a :: as, b :: bs => (a.compare b).then (compareParts as bs)

/-- The order of paths. -/
def compare (a b : String) : Ordering :=
  compareParts (parts a) (parts b)

/-- A path inside a directory. -/
def join (directory path : String) : String :=
  if path.startsWith "/" || directory.isEmpty then path
  else if directory.endsWith "/" then directory ++ path
  else directory ++ "/" ++ path

/-- The last step, if it is a name. -/
def fileName? (path : String) : Option String :=
  match (parts path).getLast? with
  | some (.name s) => some s
  | _ => none

/-- What stands behind the last point of a file's name; a point at its beginning does not count. -/
def extension? (path : String) : Option String :=
  match fileName? path with
  | none => none
  | some s =>
    match Text.cutLast? ['.'] s.toList with
    | some (stem, tail) => if stem.isEmpty then none else some (String.ofList tail)
    | none => none

/-- Whether a piece behind a separator takes no step. -/
def isIdle (piece : List Char) : Bool :=
  piece.isEmpty || piece == ['.']

/-- The path without its last step; none if there is no step that could be taken off. -/
def parent? (path : String) : Option String :=
  match Text.split ['/'] path.toList with
  | [] => none
  | first :: rest =>
    match rest.reverse.dropWhile isIdle with
    | [] => if first.isEmpty then none else some ""
    | _ :: above =>
      let kept := (above.dropWhile isIdle).reverse
      if kept.isEmpty && first.isEmpty then some "/"
      else some (String.ofList (['/'].intercalate (first :: kept)))

/-- Whether a path can only be that of a directory. -/
def isDirectoryPath (path : String) : Bool :=
  path.endsWith "/" || path.endsWith "/."

/-- What is left of a path inside a directory. -/
def within? (directory path : String) : Option (List PathPart) :=
  let lead := parts directory
  if lead.isPrefixOf (parts path) then some ((parts path).drop lead.length) else none

/-- The ending of source files. -/
def sourceEnding : List Char := ".rs".toList

/-- The module path of a source file inside a directory: `lib` and `main` at its top are the root, and
a file `mod` stands for the directory that it is in. -/
def modulePath (directory path : String) : List String :=
  match within? directory path with
  | none => []
  | some steps =>
    let names := steps.map PathPart.text
    match names.getLast? with
    | none => []
    | some last =>
      let stem := (Text.before? sourceEnding last.toList).getD last.toList
      let stem := String.ofList stem
      let above := names.dropLast
      if (above.isEmpty && (stem == "lib" || stem == "main")) || stem == "mod" then above
      else above ++ [stem]

end Path

end Tablewright
