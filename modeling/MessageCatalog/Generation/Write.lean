import MessageCatalog.FileTree.Operations
import MessageCatalog.Generation

/-!
# Writing a generation

Both files are first written under other names beside their targets. Only when both are there do
they take the places of their targets, one after the other.

## Main definitions

* `OutputFile.stagingPath` — where a file is written first.
* `OutputFile.stage` — writes a file there.
* `OutputFile.commit` — moves it to its target.
* `Generation.write` — writes both files.
* `WriteError` — the path that could not be written, and why.
-/

namespace MessageCatalog

/-- The path that could not be written, and why. -/
structure WriteError where
  path : Path
  error : FileError
  deriving DecidableEq, Repr

/-- The wording of an error. -/
def WriteError.message (e : WriteError) : String :=
  "Failed to access '" ++ e.path.text ++ "': " ++ e.error.message

namespace OutputFile

/-- Where a file is written first: beside its target, under a hidden name. -/
def stagingPath (file : OutputFile) : Path :=
  file.path.withFileName ("." ++ file.path.fileName?.getD "" ++ ".tmp")

/-- Makes the directories above the target. -/
def makeParent (file : OutputFile) (fs : FileSystem) : FileSystem × Except WriteError Unit :=
  match file.path.parent? with
  | none => (fs, .ok ())
  | some parent =>
    match fs.createDirectories parent with
    | (made, .ok ()) => (made, .ok ())
    | (made, .error e) => (made, .error ⟨parent, e⟩)

/-- Writes a file beside its target and returns where. A file that could not be written is not left
behind. -/
def stage (file : OutputFile) (fs : FileSystem) : FileSystem × Except WriteError Path :=
  match file.makeParent fs with
  | (made, .error e) => (made, .error e)
  | (made, .ok ()) =>
    match made.writeFile file.stagingPath file.content.toUTF8 with
    | .ok written => (written, .ok file.stagingPath)
    | .error e => (made.discard file.stagingPath, .error ⟨file.stagingPath, e⟩)

/-- Moves a file from where it was written first to its target. -/
def commit (file : OutputFile) (staged : Path) (fs : FileSystem) :
    FileSystem × Except WriteError Unit :=
  match fs.rename staged file.path with
  | .ok renamed => (renamed, .ok ())
  | .error e => (fs, .error ⟨file.path, e⟩)

end OutputFile

namespace Generation

/-- Moves both files to their targets. -/
def commit (generation : Generation) (stagedKeys stagedMessages : Path) (fs : FileSystem) :
    FileSystem × Except WriteError Unit :=
  match generation.keys.commit stagedKeys fs with
  | (fs, .error e) => (fs, .error e)
  | (fs, .ok ()) => generation.messages.commit stagedMessages fs

/-- Writes both files. If the second cannot be written beside its target, the first is not left
beside its own. -/
def write (generation : Generation) (fs : FileSystem) : FileSystem × Except WriteError Unit :=
  match generation.keys.stage fs with
  | (fs, .error e) => (fs, .error e)
  | (fs, .ok stagedKeys) =>
    match generation.messages.stage fs with
    | (fs, .error e) => (fs.discard stagedKeys, .error e)
    | (fs, .ok stagedMessages) => generation.commit stagedKeys stagedMessages fs

end Generation

end MessageCatalog
