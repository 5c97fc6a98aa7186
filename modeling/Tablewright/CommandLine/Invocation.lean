import Tablewright.CommandLine.Options
import Tablewright.Model.Discovery

/-!
# Invocations

What a command line asks for: one task, and the settings that all tasks share, which may stand in front
of the name of the task or behind it.
-/

namespace Tablewright.CommandLine

/-- What the program can be asked to do. -/
inductive Task where
  /-- To report diagnostics. -/
  | check
  /-- To write the generated code to a file, or to print it. -/
  | generate (output : Option String) (dryRun : Bool)
  /-- To print the statements for a model. -/
  | statements (model : String) (dialect : Option Dialect)
  /-- To create the tables that a database does not have, or to print them. -/
  | sync (database : Option String) (dryRun : Bool)
  deriving DecidableEq

/-- A task and what it works on. -/
structure Invocation where
  /-- The directory of the sources. -/
  sources : String
  policy : Policy
  task : Task

/-- The directory of the sources where none is given. -/
def defaultSources : String := "src"

/-- Whether a value can be a path. -/
def isPathValue (value : String) : Bool := !value.isEmpty

/-- Whether a value names a dialect. -/
def isDialectValue (value : String) : Bool := (Dialect.ofName? value).isSome

/-- The options of all tasks. -/
def sharedRules : List OptionRule :=
  [{ name := "src", accepts := isPathValue },
   { name := "allow-missing-profiles", takesValue := false },
   { name := "default-dialect", repeats := true, accepts := isDialectValue },
   { name := "verbose", letter := some 'v', takesValue := false, repeats := true }]

/-- The option for a task that only shows what it would do. -/
def dryRunRule : OptionRule := { name := "dry-run", takesValue := false }

/-- The further options of a task, by its name. -/
def taskRules? : String → Option (List OptionRule)
  | "check" => some []
  | "generate" => some [{ name := "out", letter := some 'o', accepts := isPathValue }, dryRunRule]
  | "sql" => some [{ name := "model", letter := some 'm' },
      { name := "dialect", letter := some 'd', accepts := isDialectValue }]
  | "sync" => some [{ name := "database", letter := some 'd' }, dryRunRule]
  | _ => none

/-- The task of a name with its options. -/
def Task.ofOptions? (name : String) (given : List GivenOption) : Option Task :=
  let dryRun := isGiven "dry-run" given
  match name with
  | "check" => some .check
  | "generate" => some (.generate (valueOf? "out" given) dryRun)
  | "sql" => (valueOf? "model" given).map fun model =>
      .statements model ((valueOf? "dialect" given).bind Dialect.ofName?)
  | "sync" => some (.sync (valueOf? "database" given) dryRun)
  | _ => none

/-- The policy that options ask for. -/
def policyOf (outer inner : List GivenOption) : Policy :=
  let dialects := (innermost "default-dialect" outer inner).filterMap Dialect.ofName?
  let allowsMissing := isGiven "allow-missing-profiles" (outer ++ inner)
  ⟨!allowsMissing, if dialects.isEmpty then Policy.standard.defaultDialects else dialects⟩

/-- The invocation that words stand for; none if they make no sense. -/
def Invocation.ofWords? (words : List String) : Option Invocation := do
  let (outer, free) ← options? sharedRules words
  let name ← free.head?
  let (inner, more) ← options? (sharedRules ++ (← taskRules? name)) free.tail
  let task ← Task.ofOptions? name inner
  if more.isEmpty then
    some ⟨((innermost "src" outer inner).head?).getD defaultSources, policyOf outer inner, task⟩
  else none

end Tablewright.CommandLine
