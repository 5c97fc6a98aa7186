import Tablewright.Fault
import Tablewright.Postgres.Connection
import Tablewright.Project.FileTree

/-!
# Runs

A run of the generator works in a workspace: it reads and writes files, prints lines, and may talk to a
database server. What it has done before it stops stays done.
-/

namespace Tablewright

/-- Why a run stops. -/
inductive RunFault where
  /-- A source file that holds no text. -/
  | unreadable (path : String)
  /-- A source file that does not parse. -/
  | unparsable (path : String)
  /-- A file or directory that cannot be written. -/
  | unwritable (path : String)
  | unsetVariable (name : String)
  /-- Diagnostics that are errors, where these are not accepted. -/
  | errors (count : Nat)
  /-- A name that generated code would have to hold and that is none. -/
  | invalidName (name : String)
  /-- A model that no statements were generated for. -/
  | noStatements (model : String)
  | noDatabase
  /-- A database without a server. -/
  | unreachable (address : String)
  | store (fault : Fault)
  deriving DecidableEq

namespace RunFault

/-- The text of the fault, if it has one of its own. -/
def message? : RunFault → Option String
  | unsetVariable name => some ("environment variable " ++ name ++ " is not set")
  | errors count => some ("code generation reported " ++ Text.numeral count ++ " error(s)")
  | noStatements model => some ("no generated SQL for model `" ++ model ++ "`")
  | noDatabase => some "no database url: pass --database or set DATABASE_URL"
  | _ => none

/-- The status with which a program ends that stops with the fault. -/
def exitStatus : RunFault → Nat
  | invalidName _ => 101
  | _ => 1

end RunFault

/-- Where a run works. -/
structure Workspace where
  files : FileTree := .empty
  /-- What has been printed. -/
  output : String := ""
  server : PostgresConnection := {}

/-- A run that answers or stops. -/
abbrev Run (α : Type) := ExceptT RunFault (StateM Workspace) α

namespace Run

/-- Prints a text. -/
def print (text : String) : Run Unit :=
  modify fun w => { w with output := w.output ++ text }

/-- Prints a line. -/
def printLine (line : String) : Run Unit := print (line ++ "\n")

/-- Stops unless there is an answer. -/
def orStop {α : Type} (fault : RunFault) : Option α → Run α
  | some x => return x
  | none => throw fault

/-- An operation on the server. -/
def onServer {α : Type} (operation : Operation PostgresConnection α) : Run α := do
  let w ← get
  let (answer, server) := operation.run w.server
  set { w with server }
  match answer with
  | .ok x => return x
  | .error fault => throw (.store fault)

end Run

end Tablewright
