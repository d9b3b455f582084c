import MessageCatalog.Unicode.IdentifierContinue
import MessageCatalog.Unicode.IdentifierStart

/-!
# Identifiers of the generated language

## Main definitions

* `isWord` — the shape of an identifier: a start character or an underscore, then continuing
  characters.
* `isIdentifier` — the names that can be declared, possibly in raw form.
* `renderIdentifier` — the spelling of a name in a declaration.
* `isModulePath` — the paths that can be imported from.
-/

namespace MessageCatalog.Text

open Unicode (isIdentifierStart isIdentifierContinue)

/-- Whether a text has the shape of an identifier. -/
def isWord : List Char → Bool
  | [] => false
  | c :: rest => (c == '_' || isIdentifierStart c) && rest.all isIdentifierContinue

/-- The keywords that name a place in the module tree; they have no raw form. -/
def pathKeywords : List String :=
  ["crate", "self", "Self", "super"]

/-- The keywords that are written in raw form when they are used as names. -/
def rawKeywords : List String :=
  ["abstract", "as", "async", "await", "become", "box", "break", "const", "continue", "do", "dyn",
    "else", "enum", "extern", "false", "final", "fn", "for", "gen", "if", "impl", "in", "let",
    "loop", "macro", "match", "mod", "move", "mut", "override", "priv", "pub", "ref", "return",
    "static", "struct", "trait", "true", "try", "type", "typeof", "unsafe", "unsized", "use",
    "virtual", "where", "while", "yield"]

/-- Whether a name can be declared, possibly in raw form. -/
def isIdentifier (name : String) : Bool :=
  isWord name.toList && name != "_" && !pathKeywords.contains name

/-- The spelling of a name in a declaration: a keyword takes its raw form. -/
def renderIdentifier (name : String) : String :=
  if rawKeywords.contains name then "r#" ++ name else name

@[simp] theorem isWord_nil : isWord [] = false := rfl

theorem renderIdentifier_of_not_mem {name : String} (h : name ∉ rawKeywords) :
    renderIdentifier name = name := by
  simp [renderIdentifier, h]

theorem renderIdentifier_of_mem {name : String} (h : name ∈ rawKeywords) :
    renderIdentifier name = "r#" ++ name := by
  simp [renderIdentifier, h]

/-! ## Module paths -/

/-- The parts of a text between double colons, taken from the left. -/
def pathSegments : List Char → List (List Char)
  | [] => [[]]
  | ':' :: ':' :: rest => [] :: pathSegments rest
  | c :: rest =>
    match pathSegments rest with
    | [] => [[c]]
    | segment :: segments => (c :: segment) :: segments

/-- A text without one double colon in front. -/
def withoutLeadingColons : List Char → List Char
  | ':' :: ':' :: rest => rest
  | text => text

/-- Whether a text is a path of identifiers between double colons; one double colon may stand in
front. -/
def isModulePath (path : String) : Bool :=
  (pathSegments (withoutLeadingColons path.toList)).all fun segment =>
    isWord segment && segment != ['_']

end MessageCatalog.Text
