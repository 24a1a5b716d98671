import SkillAudit.Command.Run
import SkillAudit.Command.Usage
/-!
# SkillAudit.Main

The command line. What a command needs of the working directory is read as a file tree, the command
is run on it, and what it leaves behind is printed and written. Nothing is decided here.
-/

namespace SkillAudit

/-- The paths that a command reads. -/
def Command.paths : Command → List String
  | validate paths a => a.config.toList ++ a.output.toList ++ paths
  | tokens path a => a.config.toList ++ [path]
  | scan path a => a.config.toList ++ [path]
  | init output _ => output.toList

namespace WorkingDirectory

/-- The names on the way to a path; none at all for one that leads up, so that all is on its way. -/
def way (path : String) : List String :=
  let names := (FileTree.names path).filter fun name => name != "" && name != "."
  if names.contains ".." then [] else names

/-- Whether the entry at a place is read: it lies on one of the ways, or at the end of one and is
    visible or no folder. -/
def isNeeded (ways : List (List String)) (place : List String) (name : String) (isFolder : Bool) :
    Bool :=
  ways.any fun way =>
    (place ++ [name]).isPrefixOf way ||
      (way.isPrefixOf place && (FileTree.isVisible name || !isFolder))

/-- The names from the top to what a path leads to, links followed, if it lies below the top. -/
def real? (top : List String) (path : String) : IO (Option (List String)) := do
  let path ← try (toString <$> IO.FS.realPath path) catch _ => pure ""
  let names := FileTree.names path
  return if top.isPrefixOf names then some (names.drop top.length) else none

/-- Reads what is needed of the entries of the folder at a place. Links that lead out of the working
    directory are left out. -/
partial def read (top : List String) (ways : List (List String)) (place : List String)
    (found : Array IO.FS.DirEntry) : IO (List (String × FileTree)) := do
  let mut entries := []
  for e in found do
    let kind := (← e.path.symlinkMetadata).type
    if isNeeded ways place e.fileName (kind == .dir) then
      match kind with
      | .dir =>
        let inner ← read top ways (place ++ [e.fileName]) (← e.path.readDir)
        entries := (e.fileName, .folder inner) :: entries
      | .file =>
        let bytes ← IO.FS.readBinFile e.path
        entries := (e.fileName, .file bytes.toList) :: entries
      | .symlink =>
        match ← real? top e.path.toString with
        | some names =>
          let target := String.intercalate "/" (place.map (fun _ => "..") ++ names)
          entries := (e.fileName, .link target) :: entries
        | none => pure ()
      | .other => pure ()
  return entries.reverse

/-- Reads what some paths need of the working directory. -/
def tree (paths : List String) : IO FileTree := do
  let here ← IO.FS.realPath (← IO.currentDir)
  let top := FileTree.names here.toString
  let behindLinks ← paths.filterMapM (real? top)
  return .folder (← read top (paths.map way ++ behindLinks) [] (← here.readDir))

end WorkingDirectory

/-- Prints and writes what a command leaves behind, and ends as it does. -/
def Outcome.finish (o : Outcome) : IO UInt32 := do
  match o.written with
  | some (path, text) => IO.FS.writeFile path text
  | none => pure ()
  IO.print o.printed
  IO.eprint o.notice
  return o.verdict.exitCode.toUInt32

/-- Runs a command line with machine numbers. -/
def runCommandLine (args : List String) : IO UInt32 := do
  match Command.parse args with
  | .error e =>
    if e.exitCode = 0 then IO.print e.message else IO.eprint e.message
    return e.exitCode.toUInt32
  | .ok command =>
    let top ← WorkingDirectory.tree command.paths
    let colours ← (← IO.getStdout).isTty
    match (command.run top colours : Except (CommandError Float) Outcome) with
    | .ok outcome => outcome.finish
    | .error e =>
      IO.eprintln s!"error: {e.message}"
      return Verdict.invalid.exitCode.toUInt32

end SkillAudit

/-- Runs the command line. -/
def main (args : List String) : IO UInt32 := SkillAudit.runCommandLine args
