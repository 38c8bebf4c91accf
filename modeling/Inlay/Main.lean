import Inlay.CommandLine
import Inlay.Engine.StandIn
import Inlay.Files.Search

/-!
# The program

Reads the files that a run may need, does the run, and writes what came of it. Regions are formatted
by the engine in process, and a file is seen only if it is named, also in a directory.
-/

namespace Inlay.Program

def addNamed (disk : Disk) (path : Text) : IO Disk := do
  try
    return disk.addFile path (.ofString (← IO.FS.readFile path.toString))
  catch _ => return disk

partial def readAll (input : IO.FS.Stream) (read : String) : IO String := do
  let line ← input.getLine
  if line.isEmpty then return read else readAll input (read ++ line)

/-- The paths that a run with these options may read. -/
def inputs (directory home : Text) (o : Options) : List Text :=
  Path.resolve home ConfigFiles.userName :: Path.resolve directory ConfigFiles.projectName ::
    o.inputs.map (Path.resolve directory)

def formatting? (arguments : List Text) : Option Options :=
  (Options.parse arguments).toOption.filter fun o => !o.help && !o.version

def surroundings (arguments : List Text) : IO Surroundings := do
  let directory := Text.ofString (← IO.currentDir).toString
  let home := Text.ofString ((← IO.getEnv "HOME").getD "/")
  let options := formatting? arguments
  let disk ← ((options.map (inputs directory home)).getD []).foldlM addNamed Disk.empty
  let stdin ←
    if options.any Options.readsStdin then readAll (← IO.getStdin) "" else pure ""
  let colours ← (← IO.getStderr).isTty
  let concurrency := (← IO.getEnv "RPYFMT_PARALLEL_LIMIT").map Text.ofString
  return { directory, home, disk, search := disk.search, stdin := .ofString stdin, colours,
           concurrency, engineFor := fun _ => .assignments }

def writeChunk (c : Chunk) : IO Unit := do
  match c.stream with
  | .out => (← IO.getStdout).putStr c.content.toString
  | .err => (← IO.getStderr).putStr c.content.toString

def writeFiles (before after : Disk) : IO Unit := do
  for (path, content) in after.files do
    if before.files.lookup path != some content then
      IO.FS.writeFile path.toString content.toString

end Inlay.Program

def main (arguments : List String) : IO UInt32 := do
  let arguments := arguments.map Inlay.Text.ofString
  let before ← Inlay.Program.surroundings arguments
  let result := Inlay.CommandLine.run before arguments
  result.chunks.forM Inlay.Program.writeChunk
  Inlay.Program.writeFiles before.disk result.disk
  return result.exit.toUInt32
