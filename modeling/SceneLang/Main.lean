import SceneLang.CommandLine.Session

/-!
# The command

Reads the files that the command line needs, carries it out, prints what it printed and writes what
it wrote.
-/

namespace SceneLang.CommandLine

/-- The files that can be read, with the names that lead to them. -/
def readFiles (paths : List FilePath) : IO FileTree := do
  let mut entries := []
  for p in paths do
    try
      let bytes ← IO.FS.readBinFile p.text
      entries := entries ++ [(p.names, FileEntry.file (bytes.toList.map UInt8.toNat))]
    catch _ => pure ()
  return { entries }

/-- The files of a command line: read what is needed until nothing new is. -/
partial def gatherFiles (arguments : List String) (files : FileTree) (known : List FilePath) :
    IO FileTree := do
  let needed := neededFiles files arguments
  if needed.all known.contains then return files
  let known := (known ++ needed).eraseDups
  gatherFiles arguments (← readFiles known) known

/-- Print and write what a command line did; the result is the exit code. -/
def Ending.emit : Ending → IO UInt32
  | .stopped stop => return UInt32.ofNat stop.code
  | .finished report => do
    if let some (path, text) := report.written then IO.FS.writeFile path.text text
    (← IO.getStdout).putStr report.out
    (← IO.getStderr).putStr report.err
    return UInt32.ofNat report.code
  | .failed _ out => do
    (← IO.getStdout).putStr out
    return 1

end SceneLang.CommandLine

/-- Run the command line. -/
def main (arguments : List String) : IO UInt32 := do
  let files ← SceneLang.CommandLine.gatherFiles arguments {} []
  (SceneLang.CommandLine.perform files arguments).emit
