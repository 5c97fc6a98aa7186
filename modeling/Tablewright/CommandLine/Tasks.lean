import Tablewright.CommandLine.Invocation
import Tablewright.Project.BuildScript

/-!
# Tasks

What each task prints, writes and sends. A task that stops has printed what came before.
-/

namespace Tablewright

namespace Run

/-- Prints the diagnostics of a generation. -/
def printDiagnostics (g : Generation) : Run Unit :=
  g.diagnostics.forM fun d => printLine d.text

end Run

namespace TableTexts

/-- A statement under its title. -/
def titled (title : String) : Option String → String
  | some text => "-- " ++ title ++ "\n" ++ text ++ "\n\n"
  | none => ""

/-- All statements of a table, each under its title. -/
def listing (t : TableTexts) : String :=
  titled "create" t.create ++ titled "insert" t.insert ++ titled "insert batch" t.insertBatch ++
    titled "update" t.update ++ titled "delete" t.delete ++
    titled "delete batch" t.deleteBatch ++ titled "upsert" t.upsert ++
    titled "truncate" t.truncate ++ titled "select" t.select ++ titled "find" t.find ++
    titled "staging create" (t.staging.map (·.create)) ++
    titled "staging index" (t.staging.map (·.index)) ++
    titled "staging apply" (t.staging.map (·.apply))

end TableTexts

/-- The names and creating statements of the tables for a dialect. -/
def Generation.creations (g : Generation) (d : Dialect) : List (String × String) :=
  ((g.models.filter (·.dialect = some d)).filterMap (·.texts)).map fun t => (t.table, t.create)

/-- The listings of the tables of a model, of one dialect or of all, each under the model's path. -/
def Generation.listings (g : Generation) (model : String) (dialect : Option Dialect) : List String :=
  g.models.filterMap fun m => do
    let texts ← m.texts
    let d ← m.dialect
    if m.name == model && dialect.all (· = d) then
      some ("-- " ++ m.path ++ " (" ++ d.name ++ ")\n" ++ texts.listing)
    else none

namespace CommandLine

/-- The parameter that holds the name of a table. -/
def tableParameter : ParameterSpec := { name := "table", type := .postgres .text }

/-- The statement that asks a server for a table. -/
def tableQuery (table : String) : Command where
  sql := "SELECT to_regclass($1)::text AS \"name\""
  parameters := [tableParameter.bind (.text table)]

/-- Whether the server has a table. -/
def hasTable (table : String) : Run Bool := do
  let rows ← Run.onServer (PostgresConnection.connection.fetchAll (tableQuery table))
  match rows.head? with
  | none => return false
  | some row =>
    match row.read (.optional .text) "name" with
    | .ok name => return Option.isSome (name : Option String)
    | .error fault => throw (.store fault)

/-- Creates a table that the server does not have. -/
def createMissing (table create : String) : Run Unit := do
  if ← hasTable table then
    Run.printLine ("[INFO] " ++ table ++ " already exists.")
  else
    let _ ← Run.onServer (PostgresConnection.connection.execute { sql := create })
    Run.printLine ("[OK] Created " ++ table)

/-- Creates the tables that a database does not have. `answers` tells at which addresses there is a
server. -/
def createTables (database : Option String) (answers : String → Bool)
    (tables : List (String × String)) : Run Unit := do
  let address ← Run.orStop .noDatabase database
  Run.printLine (">> Connecting to " ++ address ++ "...")
  if !answers address then throw (.unreachable address)
  tables.forM fun (table, create) => createMissing table create
  Run.printLine "[OK] Sync completed."

/-- Runs a task; `database` is where the environment says that the database is. -/
def Invocation.run (i : Invocation) (database : Option String) (answers : String → Bool) : Run Unit := do
  let generate := Run.generateFrom i.policy i.sources
  match i.task with
  | .check =>
    Run.printLine (">> Checking models under " ++ i.sources ++ "...")
    let g ← generate
    Run.printDiagnostics g
    if g.hasErrors then throw (.errors g.errorCount)
    Run.printLine ("[OK] " ++ Text.numeral g.models.length ++ " model(s) generate cleanly.")
  | .generate output dryRun =>
    let g ← generate
    Run.printDiagnostics g
    if dryRun then Run.printLine g.code
    else
      let path := output.getD outputFileName
      if ← Run.writeIfChanged path g.code then
        Run.printLine ("[OK] Generated code written to " ++ path)
      else
        Run.printLine ("[INFO] " ++ path ++ " is up to date.")
  | .statements model dialect =>
    let g ← generate
    match g.listings model dialect with
    | [] =>
      Run.printDiagnostics g
      throw (.noStatements model)
    | listings => Run.print (String.join listings)
  | .sync named dryRun =>
    Run.printLine ">> Scanning for models..."
    let g ← generate
    Run.printDiagnostics g
    match g.creations .postgres with
    | [] => Run.printLine ("[WARN] No PostgreSQL models found under " ++ i.sources ++ ". Nothing to sync.")
    | tables =>
      if dryRun then tables.forM fun (table, create) =>
        Run.printLine ("-- " ++ table ++ "\n" ++ create ++ ";")
      else createTables (named <|> database) answers tables

/-- How a program ends. -/
structure Ending where
  status : Nat
  /-- What it says last, if it fails for a reason that has a text of its own. -/
  complaint : Option String
  deriving DecidableEq

/-- The ending of a command line that makes no sense. -/
def misuse : Ending := ⟨2, none⟩

/-- The ending of a task. -/
def Ending.ofAnswer : Except RunFault Unit → Ending
  | .ok () => ⟨0, none⟩
  | .error fault =>
    ⟨fault.exitStatus, fault.message?.map fun text => "Error: " ++ Text.QuoteStyle.shown.quote text⟩

/-- Runs the task that words stand for in a workspace. -/
def run (words : List String) (database : Option String) (answers : String → Bool) (w : Workspace) :
    Ending × Workspace :=
  match Invocation.ofWords? words with
  | none => (misuse, w)
  | some i =>
    let (answer, w) := (i.run database answers).run w
    (.ofAnswer answer, w)

end CommandLine

end Tablewright
