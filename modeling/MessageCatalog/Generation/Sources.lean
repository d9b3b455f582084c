import MessageCatalog.FileTree.Operations
import MessageCatalog.Generation

/-!
# Source files

The documents of a run are the regular files directly inside a folder that have `.json` in their
names, in the order of their names, or one file that is named. A folder that is found can be listed,
since nothing is forbidden in a tree of files, so a run never ends over the listing.

## Main definitions

* `isDocumentFile` — whether a file of some name holds a document.
* `FileSystem.documentFiles` — the files of a folder that hold documents.
* `sourceFiles` — the files of a run.
-/

namespace MessageCatalog

/-- Whether some characters occur in a row in a text. -/
def occursIn (pattern : List Char) : List Char → Bool
  | [] => pattern.isEmpty
  | c :: rest => pattern.isPrefixOf (c :: rest) || occursIn pattern rest

/-- Whether a file of some name is taken to hold a document. -/
def isDocumentFile (fileName : String) : Bool :=
  occursIn documentSuffix fileName.toList

/-- The files of a folder that are taken to hold documents, in the order of their names. -/
def FileSystem.documentFiles (fs : FileSystem) (folder : Path) : List Path :=
  (((fs.fileNames folder).filter isDocumentFile).mergeSort fun a b => decide (a ≤ b)).map
    fun name => folder.join ⟨name⟩

/-- The files of a run: the one inside a folder that is named, or else all that hold documents. -/
def sourceFiles (fs : FileSystem) (folder : Path) (only : Option Path) :
    Except GenerationError (List Path) :=
  if !fs.exists? folder then .error (.folderMissing folder)
  else
    match only with
    | some file =>
      if fs.isFile (folder.join file) then .ok [folder.join file]
      else .error (.fileMissing (folder.join file))
    | none =>
      if (fs.documentFiles folder).isEmpty then .error (.noDocuments folder)
      else .ok (fs.documentFiles folder)

end MessageCatalog
