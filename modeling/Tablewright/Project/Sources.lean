import Tablewright.Generate.Generation
import Tablewright.Project.Run

/-!
# Sources of a project

Which files below a directory are sources, and the generation for all of them. A directory that is not
there has no sources.
-/

namespace Tablewright

/-- The ending of the names of source files. -/
def sourceExtension : String := "rs"

/-- The directory of programs of their own; what is in it is no source of the library. -/
def programDirectory : String := "bin"

/-- Whether a file that is found from a directory is one of its sources. -/
def isSource (directory path : String) : Bool :=
  let first := (Path.within? directory path).bind List.head?
  Path.extension? path = some sourceExtension &&
    !first.any fun part => Text.eqIgnoreAsciiCase part.text programDirectory

/-- The source files of a directory in the order of their paths. -/
def FileTree.sourceFiles (t : FileTree) (directory : String) : List (String × List UInt8) :=
  ((t.filesUnder directory).filter fun file => isSource directory file.1).mergeSort fun a b =>
    (Path.compare a.1 b.1).isLE

/-- The declarations of a set and those of one more file. -/
def SourceSet.insertFile (directory : String) (s : SourceSet) (file : String × List UInt8) :
    Except RunFault SourceSet :=
  match Text.ofUtf8? file.2 with
  | none => .error (.unreadable file.1)
  | some text =>
    match s.insert? file.1 (Path.modulePath directory file.1) text with
    | some s => .ok s
    | none => .error (.unparsable file.1)

/-- The declarations in the sources of a directory. -/
def FileTree.scan (t : FileTree) (directory : String) : Except RunFault SourceSet :=
  (t.sourceFiles directory).foldlM (SourceSet.insertFile directory) .empty

namespace Run

/-- The declarations in the sources of a directory. -/
def scan (directory : String) : Run SourceSet := do
  MonadExcept.ofExcept ((← get).files.scan directory)

/-- The generation for declarations. -/
def generate (policy : Policy) (s : SourceSet) : Run Generation :=
  MonadExcept.ofExcept ((s.generate policy).mapError RunFault.invalidName)

/-- The generation for the sources of a directory. -/
def generateFrom (policy : Policy) (directory : String) : Run Generation := do
  generate policy (← scan directory)

/-- Writes a text to a file unless the file holds just that, and tells whether it was written. -/
def writeIfChanged (path text : String) : Run Bool := do
  let w ← get
  if w.files.read? path = some text then return false
  let directory := (Path.parent? path).getD ""
  let files ← orStop (.unwritable directory) (w.files.withDirectories? [] (Path.parts directory))
  let files ← orStop (.unwritable path) (files.withFile? path text.toUTF8.toList)
  set { w with files }
  return true

end Run

end Tablewright
