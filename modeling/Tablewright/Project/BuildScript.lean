import Tablewright.Project.Sources

/-!
# Build scripts

The generator as a step of a build: it reads the sources of a package, writes the generated code to the
output directory of the build, and tells the build what the step depends on and what it warns of.
-/

namespace Tablewright

/-- The name of the generated file. -/
def outputFileName : String := "bulkgen.rs"

/-- The settings of a build step. -/
structure BuildScript where
  policy : Policy := .standard
  /-- The directory of the sources, if it is not that of the package. -/
  sources : Option String := none
  /-- The generated file, if it is not in the output directory of the build. -/
  output : Option String := none
  /-- Whether the step fails if there are errors. -/
  deniesErrors : Bool := false

namespace BuildScript

/-- A path that is given, or one inside the directory that a variable of the environment holds. -/
def pathOr (environment : String → Option String) (given : Option String) (variableName inside : String) :
    Run String :=
  match given with
  | some path => return path
  | none => do
    return Path.join (← Run.orStop (.unsetVariable variableName) (environment variableName)) inside

/-- The line by which a build is told of a file that the step depends on. -/
def dependency (path : String) : String := "cargo:rerun-if-changed=" ++ path

/-- The line by which a build is told of a diagnostic. -/
def warning (d : Diagnostic) : String :=
  "cargo:warning=" ++ d.severity.name ++ "[" ++ d.kind.code ++ "]: " ++ d.message ++ " (" ++
    d.location.text ++ ")"

/-- Runs the step in an environment. -/
def run (b : BuildScript) (environment : String → Option String) : Run Generation := do
  let sources ← pathOr environment b.sources "CARGO_MANIFEST_DIR" "src"
  let output ← pathOr environment b.output "OUT_DIR" outputFileName
  let declarations ← Run.scan sources
  for path in sources :: declarations.files do
    Run.printLine (dependency path)
  let generation ← Run.generate b.policy declarations
  for d in generation.diagnostics do
    Run.printLine (warning d)
  let _ ← Run.writeIfChanged output generation.code
  if b.deniesErrors && generation.hasErrors then
    throw (.errors generation.errorCount)
  return generation

end BuildScript

end Tablewright
