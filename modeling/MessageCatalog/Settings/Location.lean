import MessageCatalog.FileTree.Operations
import MessageCatalog.Settings.Reader
import MessageCatalog.Settings.Validity

/-!
# Finding settings

The settings file is looked for in a directory, then in the directory above it, and so on, up to the
first directory that holds a repository. Without a settings file, the defaults count.

## Main definitions

* `Settings.findAmong`, `Settings.find?` — the nearest settings file.
* `Settings.load` — the settings that count in a directory, and the file they come from.
* `Settings.LoadError` — why a settings file is not accepted.
-/

namespace MessageCatalog.Settings

/-- The name of a settings file. -/
def fileName : Path := ⟨".glotgenrc.json"⟩

/-- The name of what marks a directory as the root of a repository. -/
def repositoryMark : Path := ⟨".git"⟩

/-- The first settings file in some directories, as far as the first that holds a repository. -/
def findAmong (fs : FileSystem) : List Path → Option Path
  | [] => none
  | directory :: above =>
    if fs.exists? (directory.join fileName) then some (directory.join fileName)
    else if fs.exists? (directory.join repositoryMark) then none
    else findAmong fs above

/-- The settings file that is nearest to a directory. -/
def find? (fs : FileSystem) (start : Path) : Option Path :=
  findAmong fs start.ancestors

/-- Why a settings file is not accepted. -/
inductive LoadError where
  | unreadable (path : Path) (error : FileError)
  | malformed (path : Path) (fault : Fault) (place : Position)
  | flawed (flaw : Flaw)
  deriving DecidableEq, Repr

/-- The wording of an error. -/
def LoadError.message : LoadError → String
  | .unreadable path error =>
    "Failed to read config file: " ++ path.quoted ++ ": " ++ error.message
  | .malformed path fault place =>
    "Failed to parse config file: " ++ path.quoted ++ ": " ++ Json.describe fault.message place
  | .flawed flaw => flaw.message

/-- The settings of a file. -/
def ofFile (fs : FileSystem) (path : Path) : Except LoadError Settings :=
  match fs.readText path with
  | .error error => .error (.unreadable path error)
  | .ok text =>
    match parse text with
    | .error stop => .error (.malformed path stop.reason (stop.position text))
    | .ok settings =>
      match settings.flaw? with
      | some flaw => .error (.flawed flaw)
      | none => .ok settings

/-- The settings that count in a directory, with the file that they come from if there is one. -/
def load (fs : FileSystem) (start : Path) : Except LoadError (Settings × Option Path) :=
  match find? fs start with
  | none => .ok (defaults, none)
  | some path => (ofFile fs path).map fun settings => (settings, some path)

end MessageCatalog.Settings
