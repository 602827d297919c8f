import Phrasebook.CommandLine.Outcome

/-!
# The program

Reads from the disk what a command line speaks of, and runs it.  Only here does
the outside world take part.
-/

namespace Phrasebook

/-- What the disk has at a path, if anything. -/
def diskNode? (path : String) : IO (Option FileNode) := do
  let place := (← IO.currentDir) / path
  if ← place.isDir then return some .directory
  try
    let content ← IO.FS.readFile place
    return some (.file content.toList)
  catch _ => return none

/-- The places that a command line can lead to: those its words name, and the
configuration files in all directories on the way. -/
def placesOf (tree : FileTree) (words : List Text) : List (List Text) :=
  let named := words.map tree.resolve
  let directories := (tree.current :: named).flatMap fun place =>
    (List.range (place.length + 1)).map place.take
  named ++ directories.map (· ++ [Configuration.fileName])

/-- The part of the disk that a command line speaks of. -/
def diskTree (words : List Text) : IO FileTree := do
  let directory := (← IO.currentDir).toString.toList
  let current := (Text.splitOnChar '/' directory).filter fun part => !part.isEmpty
  let tree : FileTree := ⟨current, []⟩
  let entries ← (placesOf tree words).eraseDups.filterMapM fun place => do
    let node? ← diskNode? ("/" ++ String.ofList (Text.join ['/'] place))
    return node?.map fun node => (place, node)
  return { tree with entries := entries }

end Phrasebook

open Phrasebook in
/-- Runs the program on its words, prints the outcome and returns the exit code. -/
def main (words : List String) : IO UInt32 := do
  let words := words.map String.toList
  let outcome := CommandLine.run (← diskTree words) [BlockGame.providerModule] words
  (← IO.getStdout).putStr (String.ofList outcome.output)
  (← IO.getStderr).putStr (String.ofList outcome.complaints)
  match outcome.failure with
  | some fault =>
      (← IO.getStderr).putStrLn (String.ofList ("error: " ++ fault.message))
  | none => pure ()
  return outcome.exitCode.toUInt32
