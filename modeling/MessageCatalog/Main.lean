import MessageCatalog.FileTree.Changes
import MessageCatalog.Session

/-!
# The program

The part of the disk that a session looks at is copied into a file system, the session is run on the
copy, and its changes are carried back.

## Main definitions

* `Disk.follow` — copies what stands on the way of a path.
* `Disk.view` — the file system of a session.
* `Disk.carryOut` — carries one change back.
-/

namespace MessageCatalog.Disk

/-- What stands at a place on the disk, a link not followed. -/
def kind? (place : Place) : IO (Option IO.FS.FileType) := do
  try
    return some (← (System.mkFilePath [(Place.toPath place).text]).symlinkMetadata).type
  catch _ => return none

/-- The place that a link on the disk leads to, if it leads anywhere. -/
def target? (place : Place) : IO (Option String) := do
  try
    return some (← IO.FS.realPath (Place.toPath place).text).toString
  catch _ => return none

/-- Copies the file at a place. -/
def copyFile (tree : FileNode) (place : Place) : IO FileNode := do
  try
    return FileNode.put (.file (← IO.FS.readBinFile (Place.toPath place).text)) place tree
  catch _ => return tree

/-- Copies the documents of a directory. -/
def copyDocuments (tree : FileNode) (place : Place) : IO FileNode := do
  let entries ← (System.mkFilePath [(Place.toPath place).text]).readDir
  let names := (entries.toList.map fun entry => entry.fileName).filter isDocumentFile
  names.foldlM (fun tree name => do
    match ← kind? (place ++ [name]) with
    | some .file => copyFile tree (place ++ [name])
    | _ => return tree) tree

/-- Copies what stands on the way of some steps, and what they lead to. A directory at the end of
the way is copied with its documents if they are wanted. A link that leads nowhere is not copied. -/
partial def follow (documents : Bool) (tree : FileNode) (place : Place) :
    List Step → IO FileNode
  | [] => do
    match ← kind? place with
    | some .dir => if documents then copyDocuments tree place else return tree
    | _ => return tree
  | .up :: rest => follow documents tree place.dropLast rest
  | .here :: rest => follow documents tree place rest
  | .slash :: rest => follow documents tree place rest
  | .name name :: rest => do
    let next := place ++ [name]
    match ← kind? next with
    | some .dir =>
      let tree := if (tree.get? next).isSome then tree else FileNode.put (.directory []) next tree
      follow documents tree next rest
    | some .symlink =>
      match ← target? next with
      | some target =>
        follow documents (FileNode.put (.link target) next tree) [] (Step.ofText target ++ rest)
      | none => return tree
    | some .file => copyFile tree next
    | _ => return tree

/-- Copies what stands on the way of some paths. -/
def followAll (documents : Bool) (fs : FileSystem) (paths : List Path) : IO FileSystem := do
  let root ← paths.foldlM (fun tree p =>
    follow documents tree (fs.start p) (Step.ofText p.text)) fs.root
  return { fs with root := root }

/-- The paths at which settings are looked for. -/
def settingsPaths (cwd : Path) : List Path :=
  cwd.ancestors.flatMap fun directory =>
    [directory.join Settings.fileName, directory.join Settings.repositoryMark]

/-- The paths that a generation is written to. -/
def outputPaths (cwd : Path) (settings : Settings) : List Path :=
  [settings.keysFile, settings.messagesFile].flatMap fun name =>
    let file : OutputFile := ⟨(cwd.join ⟨settings.outputDir⟩).join ⟨name⟩, ""⟩
    [file.path, file.stagingPath]

/-- The file system of a session: what it looks at when it searches for settings and, for a
generation, what its settings name. -/
def view (environment : CommandLine.Environment) (args : List String) : IO FileSystem := do
  let cwd := (← IO.currentDir).toString
  let place := (Path.splitAtSlashes cwd.toList).filterMap fun segment =>
    if segment.isEmpty then none else some (String.ofList segment)
  let bare : FileSystem := ⟨.directory [], place⟩
  let fs ← followAll false bare (settingsPaths bare.currentPath)
  match CommandLine.read environment args with
  | .ok (some (.generate overrides)) =>
    match Session.settingsFor overrides fs with
    | .error _ => return fs
    | .ok (settings, _) =>
      let folder := fs.currentPath.join ⟨settings.sourceDir⟩
      let files := (settings.sourceFile.map fun name => folder.join ⟨name⟩).toList
      let fs ← followAll true fs [folder]
      followAll false fs (files ++ outputPaths fs.currentPath settings)
  | _ => return fs

/-- Carries one change back. A file that is there is replaced in one step. -/
def carryOut : Change → IO Unit
  | .makeDirectory place => IO.FS.createDir (Place.toPath place).text
  | .makeFile place content => IO.FS.writeBinFile (Place.toPath place).text content
  | .replaceFile place content => do
    let file : OutputFile := ⟨Place.toPath place, ""⟩
    IO.FS.writeBinFile file.stagingPath.text content
    IO.FS.rename file.stagingPath.text file.path.text
  | .remove place => IO.FS.removeFile (Place.toPath place).text

/-- The variables that a session sees. -/
def environment : IO CommandLine.Environment := do
  return {
    sourceDir := ← IO.getEnv "GLOTGEN_SOURCE_DIR"
    sourceFile := ← IO.getEnv "GLOTGEN_SOURCE_FILE"
    outputDir := ← IO.getEnv "GLOTGEN_OUTPUT_DIR" }

end MessageCatalog.Disk

open MessageCatalog in
/-- Runs one session on the disk. -/
def main (args : List String) : IO UInt32 := do
  let environment ← Disk.environment
  let colored := (← (← IO.getStdout).isTty) && (← IO.getEnv "NO_COLOR").isNone
  let fs ← Disk.view environment args
  let session := Session.run ⟨colored, environment⟩ args fs
  try
    (FileNode.changes [] (some fs.root) session.fileSystem.root).forM Disk.carryOut
  catch e =>
    IO.eprint (Report.error colored e.toString)
    return 2
  IO.print session.stdout
  IO.eprint session.stderr
  match session.ending with
  | .failed failure => IO.eprint (Report.error colored failure.message)
  | .stopped (.refused refusal) => IO.eprint (Report.error colored refusal.message)
  | _ => pure ()
  return session.ending.exitCode.toUInt32
