import ApiPages.Command.Run
import ApiPages.Command.Surroundings

/-!
The program. The artifact roots are listed on standard input, a path a line, directories as well as
files; everything else is looked for in the current directory and those around it.
-/

namespace ApiPages.Main

/-- What stands at a path. What is there and cannot be read counts as a directory. -/
def found? (path : String) : IO (Option FileTree.Found) := do
  try
    return some (.file (← IO.FS.readBinFile path).toList)
  catch
    | .noFileOrDirectory .. => return none
    | _ => return some .directory

def found (paths : List Path) : IO (List (Path × FileTree.Found)) := do
  let all ← paths.mapM fun path => return (← found? path.display).map fun found => (path, found)
  return all.filterMap id

def lines (path : String) : IO (List String) := do
  try
    return (← IO.FS.lines path).toList
  catch _ => return []

def environment : IO (List (String × String)) := do
  match ← found? "/proc/self/environ" with
  | some (.file block) =>
    return Surroundings.variablesOf ((Text.Utf8.decode? block).getD [])
  | _ => return []

def processorLine : String := "Cpus_allowed:"

def processors : IO UInt64 := do
  let found := (← lines "/proc/self/status").find? fun line => line.startsWith processorLine
  let mask := (found.getD "").toList.drop processorLine.length
  return UInt64.ofNat (max 1 (Surroundings.processorsIn mask))

def currentPlace : IO Place := do
  return Path.segments (toString (← IO.currentDir))

/-- Writes the settings file of a place where a run has changed it. -/
def keep (here : Place) (before after : FileTree) : IO Unit := do
  let path := Settings.fileIn (FileTree.pathOf here)
  let content := after.content? here path
  if content ≠ before.content? here path then
    IO.FS.createDirAll (path.parent?.getD []).display
    IO.FS.writeBinFile path.display ⟨(content.getD []).toArray⟩

end ApiPages.Main

open ApiPages

def main (arguments : List String) : IO UInt32 := do
  let start ← IO.monoMsNow
  let line := Command.Line.ofArguments arguments
  let here ← Main.currentPlace
  let listed ← if line.needsIndex then Main.lines "/dev/stdin" else pure []
  let found ← Main.found (line.settingsPaths here ++ listed.map Text.Utf8.encode)
  let around := Surroundings.ofFound here found (← Main.environment) (← Main.processors)
  let elapsed := Statistics.seconds ((← IO.monoMsNow) - start)
  let run := Command.run around elapsed arguments
  Main.keep here around.files run.files
  IO.print (Command.Run.text run.output)
  IO.eprint (Command.Run.text run.errors)
  return UInt32.ofNat run.exit
