import MessageCatalog.Settings
import MessageCatalog.Text.Identifier
import MessageCatalog.Unicode.WhiteSpace

/-!
# Valid settings

Settings that can be read may still make no sense together.

## Main definitions

* `Settings.Flaw` — what is wrong with some settings, in the order in which it is looked for.
* `Settings.flaw?` — the first flaw of some settings.
-/

namespace MessageCatalog.Settings

/-- What is wrong with some settings. -/
inductive Flaw where
  /-- No document could be accepted. -/
  | noDepth
  /-- An output file has a blank name. -/
  | blankName (field : Field)
  /-- Both output files have one name. -/
  | sameName (name : String)
  /-- The module to import from is no module path. -/
  | notModulePath (path : String)
  deriving DecidableEq, Repr

/-- The wording of a flaw. -/
def Flaw.message : Flaw → String
  | .noDepth => "'maxDepth' must be at least 1"
  | .blankName field => "'" ++ field.name ++ "' must not be empty"
  | .sameName name => "'keysFile' and 'messagesFile' must differ, both are \"" ++ name ++ "\""
  | .notModulePath path => "Invalid Rust module path in 'runtimePath': \"" ++ path ++ "\""

/-- Whether a text holds nothing but white space. -/
def isBlank (text : String) : Bool :=
  text.toList.all Unicode.isWhiteSpace

/-- The first flaw of some settings, if they have one. -/
def flaw? (settings : Settings) : Option Flaw :=
  if settings.maxDepth = 0 then some .noDepth
  else if isBlank settings.keysFile then some (.blankName .keysFile)
  else if isBlank settings.messagesFile then some (.blankName .messagesFile)
  else if settings.keysFile = settings.messagesFile then some (.sameName settings.keysFile)
  else if Text.isModulePath settings.runtimePath then none
  else some (.notModulePath settings.runtimePath)

end MessageCatalog.Settings
