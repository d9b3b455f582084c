import MessageCatalog.Generation.Selection
import MessageCatalog.Generation.Sources
import MessageCatalog.Table.Render

/-!
# Building a generation

Everything that can stop a run is found here, before any file is touched.

## Main definitions

* `checkEntries` — the entries that cannot become constants, as warnings or, if asked for, as an
  error.
* `generate` — the generation of some settings in a directory.
-/

namespace MessageCatalog

/-- What is told about the entries of the constants. With `strict` set, collisions stop the run, and
so do symbols that are no identifiers. -/
def checkEntries (strict : Bool) (entries : List Entry) : Except GenerationError (List Warning) :=
  let collisions := findCollisions entries
  let invalid := invalidEntries entries
  if strict && !collisions.isEmpty then .error (.collisions collisions)
  else if strict && !invalid.isEmpty then .error (.invalidSymbols (invalid.map Entry.key))
  else .ok (collisions.map .collision ++ invalid.map .invalidSymbol)

/-- The documents of some settings, chosen from the files in a directory. -/
def selectDocuments (fs : FileSystem) (root : Path) (settings : Settings) :
    Except GenerationError Selection := do
  let paths ← sourceFiles fs (root.join ⟨settings.sourceDir⟩) (settings.sourceFile.map Path.mk)
  let reference ← referenceIndex settings.referenceLocale paths
  Selection.addAll reference 0 {} (loadAll fs paths settings.maxDepth)

/-- The generation of some documents. -/
def Selection.generation (selection : Selection) (root : Path) (settings : Settings) :
    Except GenerationError Generation :=
  match selection.referenceDocument? with
  -- there is always a reference, since the run has stopped if its file holds no document
  | none => .error (.noDocuments (root.join ⟨settings.sourceDir⟩))
  | some reference => do
    let entries := reference.flatten settings.skipBranchKeys
    let warnings ← checkEntries settings.strict entries
    let outputDir := root.join ⟨settings.outputDir⟩
    return {
      keys := ⟨outputDir.join ⟨settings.keysFile⟩, Constants.render entries⟩
      messages := ⟨outputDir.join ⟨settings.messagesFile⟩,
        (Table.build selection.documents).render settings.runtimePath⟩
      reference := reference.name
      constantCount := entries.length
      documents := selection.chosen.map Chosen.summary
      warnings := selection.warnings ++ warnings }

/-- The generation of some settings; relative paths in them start in a directory. -/
def generate (fs : FileSystem) (root : Path) (settings : Settings) :
    Except GenerationError Generation := do
  let selection ← selectDocuments fs root settings
  selection.generation root settings

end MessageCatalog
