import MessageCatalog.Document.Reading
import MessageCatalog.Entry.Check
import MessageCatalog.Path

/-!
# Generations

A generation is what a run has made but not written yet: two files, and what there is to tell about
how they came about.

## Main definitions

* `OutputFile` — a path with the content that the file there is to have.
* `Warning` — what a run tells about but does not stop for.
* `Generation` — the two files with the documents they come from.
* `GenerationError` — why there is nothing to write.
-/

namespace MessageCatalog

/-- A path with the content that the file there is to have. -/
structure OutputFile where
  path : Path
  content : String
  deriving DecidableEq, Repr

/-- A document of a generation. -/
structure DocumentSummary where
  name : String
  path : Path
  keyCount : Nat
  deriving DecidableEq, Repr

/-- Why a file takes no part in a generation. -/
inductive SkipReason where
  /-- It holds no document. -/
  | notLoaded (error : DocumentError)
  /-- An earlier file holds a document of that name. -/
  | nameTaken (name : String) (holder : Path)
  deriving DecidableEq, Repr

/-- The wording of a reason. -/
def SkipReason.message : SkipReason → String
  | .notLoaded error => error.message
  | .nameTaken name holder =>
    "document name '" ++ name ++ "' is already used by '" ++ holder.text ++ "'"

/-- What a run tells about but does not stop for. -/
inductive Warning where
  | skipped (path : Path) (reason : SkipReason)
  | collision (found : Collision)
  | invalidSymbol (entry : Entry)
  deriving DecidableEq, Repr

/-- The wording of a warning. -/
def Warning.message : Warning → String
  | .skipped path reason => "skipped '" ++ path.text ++ "': " ++ reason.message
  | .collision found =>
    "symbol '" ++ found.symbol ++ "' is generated by several keys: " ++
      ", ".intercalate found.keys
  | .invalidSymbol entry =>
    "symbol '" ++ entry.symbol ++ "' (key \"" ++ entry.key ++
      "\") is not a valid Rust identifier"

/-- What a run has made but not written yet. -/
structure Generation where
  /-- The file of constants. -/
  keys : OutputFile
  /-- The file of messages. -/
  messages : OutputFile
  /-- The name of the document that the constants come from. -/
  reference : String
  constantCount : Nat
  /-- The documents of the table. -/
  documents : List DocumentSummary
  warnings : List Warning
  deriving DecidableEq, Repr

/-- Why there is nothing to write. That a folder is found but cannot be listed is not among the
causes, since trees of files have no permissions. -/
inductive GenerationError where
  | folderMissing (path : Path)
  | fileMissing (path : Path)
  | noDocuments (path : Path)
  | malformed (path : Path) (error : DocumentError)
  | referenceMissing (name : String)
  | collisions (found : List Collision)
  | invalidSymbols (keys : List String)
  deriving DecidableEq, Repr

/-- A collision in the wording of an error. -/
def Collision.describe (collision : Collision) : String :=
  collision.symbol ++ " <- " ++ ", ".intercalate collision.keys

/-- The wording of an error. -/
def GenerationError.message : GenerationError → String
  | .folderMissing path =>
    "Source path '" ++ path.text ++
      "' does not exist.\nHint: Check the 'sourceDir' setting or --source-dir."
  | .fileMissing path => "Source file '" ++ path.text ++ "' does not exist."
  | .noDocuments path => "Source folder '" ++ path.text ++ "' does not contain any JSON files."
  | .malformed path error => "Failed to load '" ++ path.text ++ "': " ++ error.message
  | .referenceMissing name =>
    "Reference locale '" ++ name ++ "' not found among the source files."
  | .collisions found =>
    toString found.length ++ " symbolic name collision(s): " ++
      "; ".intercalate (found.map Collision.describe)
  | .invalidSymbols keys =>
    "Key(s) not usable as Rust identifiers: " ++ ", ".intercalate keys

end MessageCatalog
