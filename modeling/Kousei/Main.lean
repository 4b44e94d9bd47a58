import Kousei.Command.Run
import Kousei.Yaml.Reader

/-! # The program

    What the arguments name is read into a tree, the command line is run on
    it, and what the run leaves behind is printed.  No packages with engines
    or grammars come with the program itself. -/

namespace Kousei.Main

/-! ## Reading directories -/

/-- What is at a path: a regular file with its bytes, a directory with all that is in it but
    the directories that are passed over, or something else, which is not read. -/
partial def snapshot (path : String) : IO (Option FileTree) := do
  let place := (← IO.currentDir) / path
  if !(← place.pathExists) then return none
  match (← place.metadata).type with
  | .dir =>
    let listed ← place.readDir.toBaseIO
    let mut entries : List (String × FileTree) := []
    for entry in listed.toOption.getD #[] do
      let below := entry.path
      let passedOver := FileTree.skippedNames.contains entry.fileName
      if passedOver && (← below.isDir) then
        entries := (entry.fileName, .directory {} []) :: entries
      else
        match ← snapshot below.toString with
        | some t => entries := (entry.fileName, t) :: entries
        | none => pure ()
    -- A directory that is open to the program leads to itself.
    let enters ← (place / ".").pathExists
    return some (.directory ⟨listed.toOption.isSome, enters⟩ entries)
  | .file =>
    let bytes := (← (IO.FS.readBinFile place).toBaseIO).toOption
    return some (.leaf true (bytes.map (·.toList)))
  | _ => return some (.leaf false none)

/-- The tree with what is at the given paths. -/
def workspaceWith (paths : List String) : IO Workspace := do
  let home := Path.ofString (← IO.currentDir).toString
  let mut root := (FileTree.directory {} []).put home.names (.directory {} [])
  for path in paths do
    match ← snapshot path with
    | some t => root := t.put (Path.resolve home (Path.ofString path)).names root
    | none => pure ()
  return ⟨root, home⟩

/-- The paths that a command line names. -/
def namedPaths (args : List String) : List String :=
  match Command.readLine args with
  | .request q => q.config.toList ++ q.paths
  | _ => []

/-! ## Printing -/

/-- An installation without any packages. -/
def bareInstallation : Installation where
  janome := fun _ => .ok []
  fugashi := fun _ => .ok []

def bareGrammars : GrammarSource Parser :=
  packagedGrammars [] none fun _ => .error (.raised "RuntimeError" "no grammar")

def faultMessage : Command.Fault → String
  | .settings fault => fault.message
  | .failure failure => failure.message

/-- Print what a run leaves behind, and give its status. -/
def printEnding (outcome : Except Command.Fault Command.Ending) (notices : List Notice) :
    IO UInt32 := do
  for n in notices do
    IO.eprintln s!"{n.level.name} {n.reporter}: {n.message}"
  match outcome with
  | .ok ending =>
    for line in ending.told do
      IO.eprintln line
    for line in ending.printed do
      IO.println line
    return ending.status.toUInt32
  | .error fault =>
    IO.eprintln (faultMessage fault)
    return 1

end Kousei.Main

open Kousei in
def main (args : List String) : IO UInt32 := do
  let workspace ← Main.workspaceWith (Main.namedPaths args)
  let host : Command.Host := ⟨Main.bareInstallation, Main.bareGrammars, Yaml.reader, workspace⟩
  let (outcome, c) := Command.run host args
  Main.printEnding outcome c.notices
