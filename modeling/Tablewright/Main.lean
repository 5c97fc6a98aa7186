import Tablewright.CommandLine.Tasks

/-!
# The program

Reads what a task needs of the file system, runs the task, and writes back what it has changed. There is
no network here: no address has a server.
-/

namespace Tablewright.Program

open CommandLine

/-- What stands at a path and below it. -/
partial def entriesBelow (place : List String) (e : IO.FS.DirEntry) :
    IO (List (List String × FileEntry)) := do
  let path := e.path
  if ← path.isDir then
    let inner ← (← path.readDir).toList.mapM fun x => entriesBelow (place ++ [x.fileName]) x
    return (place, .directory) :: inner.flatten
  else if ← path.pathExists then
    return [(place, .file (← IO.FS.readBinFile path).toList)]
  else
    return []

/-- The directories on the way to a path, and what stands there and below. -/
def load (path : String) : IO (List (List String × FileEntry)) := do
  let parts := Path.parts path
  let mut way := []
  for n in List.range parts.length do
    let above : IO.FS.DirEntry := ⟨".", (parts.take n).foldl (fun p part => Path.join p part.text) ""⟩
    if ← above.path.isDir then
      way := ((parts.take n).foldl FileTree.step [], .directory) :: way
  return way ++ (← entriesBelow (parts.foldl FileTree.step []) ⟨".", path⟩)

/-- The paths that an invocation reads. -/
def pathsOf (i : Invocation) : List String :=
  match i.task with
  | .generate output false => [i.sources, output.getD outputFileName]
  | _ => [i.sources]

/-- Writes files and the directories that they are in. -/
def store (files : List (List String × List UInt8)) : IO Unit :=
  files.forM fun (place, bytes) => do
    let path := String.intercalate "/" place
    let directory := (Path.parent? path).getD ""
    if !directory.isEmpty then IO.FS.createDirAll directory
    IO.FS.writeBinFile path ⟨bytes.toArray⟩

end Tablewright.Program

open Tablewright in
/-- Runs the task that the arguments ask for. -/
def main (arguments : List String) : IO UInt32 := do
  let paths := ((CommandLine.Invocation.ofWords? arguments).map Program.pathsOf).getD []
  let files : FileTree := ⟨(← paths.mapM Program.load).flatten⟩
  let database ← IO.getEnv "DATABASE_URL"
  let (ending, w) := CommandLine.run arguments database (fun _ => false) { files }
  IO.print w.output
  Program.store (w.files.changedSince files)
  if ending.status != 0 then IO.eprintln (ending.complaint.getD "Error")
  return ending.status.toUInt32
