/-
  The program.

  The files below the working directory are read, a run is computed on them,
  and the files that it changed are written.
-/
import CxxWriter.CommandLine.Run
import CxxWriter.Template.Standard
import CxxWriter.Terminal.Message

namespace CxxWriter.Program

/-- Adds a file, or a directory and all below it.  A file that cannot be read
    is left out. -/
partial def collect (place : List String) (files : Files) (entry : IO.FS.DirEntry) : IO Files := do
  let place := place ++ [entry.fileName]
  if ← entry.path.isDir then
    (← entry.path.readDir).foldlM (collect place) (files.set place .directory)
  else
    try return files.set place (.file (← IO.FS.readBinFile entry.path))
    catch _ => return files

/-- Writes what a run has changed. -/
def store (before after : Files) : IO Unit :=
  for (place, entry) in after.entries do
    if before.get? place != some entry then
      let path := "/" ++ String.intercalate "/" place
      match entry with
      | .directory => IO.FS.createDirAll path
      | .file content => IO.FS.writeBinFile path content

/-- Carries out a run. -/
def perform (arguments : List String) : IO UInt32 := do
  let here := (Path.ofString (← IO.currentDir).toString).parts
  let files ← (← (← IO.currentDir).readDir).foldlM (collect here) { Files.empty with here := here }
  let run := CommandLine.run Terminal.console Template.library arguments files
  store files run.files
  for r in run.log do
    IO.eprintln (r.level.name ++ " " ++ r.component.name ++ ": " ++ r.message)
  IO.print run.shown.out
  IO.eprint run.shown.err
  match run.ending with
  | .completed code | .settled code => return code.toUInt32
  | .failed _ | .refused _ =>
    IO.eprintln "unexpected error"
    return 1

end CxxWriter.Program

def main (arguments : List String) : IO UInt32 := CxxWriter.Program.perform arguments
