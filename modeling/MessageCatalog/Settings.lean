import MessageCatalog.Json.Writer

/-!
# Settings

What a run reads, what it writes and how strict it is. A settings file holds one JSON object with a
field for each setting; a setting without a value is left out.

## Main definitions

* `Settings` — the settings with their defaults.
* `Settings.Field` — the fields of a settings file, in order.
* `Settings.toJson`, `Settings.render` — the settings as a value and as the text of a file.
-/

namespace MessageCatalog

/-- The settings of a run. -/
structure Settings where
  /-- The folder of the documents. -/
  sourceDir : String := "./messages"
  /-- The only document to read, if there is one. -/
  sourceFile : Option String := none
  /-- The folder of the generated files. -/
  outputDir : String := "./src/generated"
  /-- The name of the file of constants. -/
  keysFile : String := "locale_keys.rs"
  /-- The name of the file of messages. -/
  messagesFile : String := "codegen_loader.rs"
  /-- The document whose keys become constants; by default the first. -/
  referenceLocale : Option String := none
  /-- Whether entries that cannot become constants stop the run. -/
  strict : Bool := false
  /-- Whether branches have no constants. -/
  skipBranchKeys : Bool := false
  /-- The number of levels to which objects may be nested in a document. -/
  maxDepth : Nat := 32
  /-- The module that the file of messages imports from. -/
  runtimePath : String := "glotgen::runtime"
  deriving DecidableEq, Repr

namespace Settings

/-- The settings of a run that changes none. -/
def defaults : Settings := {}

/-- The fields of a settings file. -/
inductive Field where
  | sourceDir
  | sourceFile
  | outputDir
  | keysFile
  | messagesFile
  | referenceLocale
  | strict
  | skipBranchKeys
  | maxDepth
  | runtimePath
  deriving DecidableEq, Repr

namespace Field

/-- All fields in the order in which they are written. -/
def all : List Field :=
  [.sourceDir, .sourceFile, .outputDir, .keysFile, .messagesFile, .referenceLocale, .strict,
    .skipBranchKeys, .maxDepth, .runtimePath]

/-- The name of a field. -/
def name : Field → String
  | .sourceDir => "sourceDir"
  | .sourceFile => "sourceFile"
  | .outputDir => "outputDir"
  | .keysFile => "keysFile"
  | .messagesFile => "messagesFile"
  | .referenceLocale => "referenceLocale"
  | .strict => "strict"
  | .skipBranchKeys => "skipBranchKeys"
  | .maxDepth => "maxDepth"
  | .runtimePath => "runtimePath"

/-- The field of a name. -/
def ofName? (name : String) : Option Field :=
  all.find? fun field => field.name = name

end Field

/-- The value of a field, if it has one. -/
def value? (settings : Settings) : Field → Option Json
  | .sourceDir => some (.string settings.sourceDir)
  | .sourceFile => settings.sourceFile.map .string
  | .outputDir => some (.string settings.outputDir)
  | .keysFile => some (.string settings.keysFile)
  | .messagesFile => some (.string settings.messagesFile)
  | .referenceLocale => settings.referenceLocale.map .string
  | .strict => some (.boolean settings.strict)
  | .skipBranchKeys => some (.boolean settings.skipBranchKeys)
  | .maxDepth => some (.number (.natural settings.maxDepth))
  | .runtimePath => some (.string settings.runtimePath)

/-- The settings as an object, without the fields that have no value. -/
def toJson (settings : Settings) : Json :=
  .object (Field.all.filterMap fun field => (settings.value? field).map fun value =>
    (field.name, value))

/-- The settings as the text of a file. -/
def render (settings : Settings) : String :=
  settings.toJson.indented

end Settings

end MessageCatalog
