import MessageCatalog.Generation
import MessageCatalog.Settings

/-!
# Choosing documents

Every file of a run is read. A file that holds no document, or one whose name an earlier document
has, is left out with a warning; only the file that the constants come from has to hold a document.

## Main definitions

* `Loaded` — a file with the document in it, or why there is none.
* `Selection` — the documents chosen so far, with the one that the constants come from.
* `Selection.add` — what becomes of one more file.
* `Selection.addAll` — what becomes of all files.
* `referenceIndex` — the file that the constants come from.
-/

namespace MessageCatalog

/-- A file with the document in it, or with why there is none. -/
structure Loaded where
  path : Path
  result : Except DocumentError Document

/-- The files of a run with what is in them. -/
def loadAll (fs : FileSystem) (paths : List Path) (maxDepth : Nat) : List Loaded :=
  paths.map fun path => ⟨path, Document.load fs path maxDepth⟩

/-- The place, among the files of a run, of the one that the constants come from: the first whose
document would have the name that is asked for. -/
def referenceIndex (locale : Option String) (paths : List Path) : Except GenerationError Nat :=
  match locale with
  | none => .ok 0
  | some name =>
    match paths.findIdx? fun path => path.documentName = name with
    | some index => .ok index
    | none => .error (.referenceMissing name)

/-- A document with its file. -/
structure Chosen where
  path : Path
  document : Document

/-- What is told about a document. -/
def Chosen.summary (chosen : Chosen) : DocumentSummary :=
  ⟨chosen.document.name, chosen.path, chosen.document.keyCount⟩

/-- The documents chosen so far, in order, with the place of the one that the constants come from
and what has been left out. -/
structure Selection where
  chosen : List Chosen := []
  reference : Option Nat := none
  skipped : List (Path × SkipReason) := []

namespace Selection

/-- The file of the document that has a name. -/
def holder? (selection : Selection) (name : String) : Option Path :=
  (selection.chosen.find? fun chosen => chosen.document.name = name).map Chosen.path

/-- Leaves a file out. -/
def skip (selection : Selection) (path : Path) (reason : SkipReason) : Selection :=
  { selection with skipped := selection.skipped ++ [(path, reason)] }

/-- Takes a document in. -/
def choose (selection : Selection) (path : Path) (document : Document) (isReference : Bool) :
    Selection where
  chosen := selection.chosen ++ [⟨path, document⟩]
  reference := if isReference then some selection.chosen.length else selection.reference
  skipped := selection.skipped

/-- What becomes of one more file. -/
def add (selection : Selection) (file : Loaded) (isReference : Bool) :
    Except GenerationError Selection :=
  match file.result with
  | .ok document =>
    match selection.holder? document.name with
    | some holder => .ok (selection.skip file.path (.nameTaken document.name holder))
    | none => .ok (selection.choose file.path document isReference)
  | .error error =>
    if isReference then .error (.malformed file.path error)
    else .ok (selection.skip file.path (.notLoaded error))

/-- What becomes of some files, of which the first has a place among the files of the run. -/
def addAll (reference : Nat) : Nat → Selection → List Loaded → Except GenerationError Selection
  | _, selection, [] => .ok selection
  | index, selection, file :: rest =>
    match selection.add file (index == reference) with
    | .ok selection => addAll reference (index + 1) selection rest
    | .error error => .error error

/-- The warnings about what has been left out. -/
def warnings (selection : Selection) : List Warning :=
  selection.skipped.map fun (path, reason) => .skipped path reason

/-- The documents chosen so far. -/
def documents (selection : Selection) : List Document :=
  selection.chosen.map Chosen.document

/-- The document that the constants come from. -/
def referenceDocument? (selection : Selection) : Option Document :=
  selection.documents[selection.reference.getD 0]?

end Selection

end MessageCatalog
