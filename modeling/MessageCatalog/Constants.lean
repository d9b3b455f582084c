import MessageCatalog.Entry
import MessageCatalog.Text.Identifier
import MessageCatalog.Text.Literal

/-!
# The file of constants

One line declares one constant. The lines stand between a fixed head and a closing brace.

## Main definitions

* `generatedHeader` — the first line of every generated file.
* `Constants.declaration` — the line of an entry.
* `Constants.render` — the whole file.
-/

namespace MessageCatalog

/-- The first line of every generated file. -/
def generatedHeader : String :=
  "// @generated by glotgen. Do not edit by hand."

namespace Constants

/-- What stands in front of the declarations. -/
def head : String :=
  generatedHeader ++ "\n\npub struct LocaleKeys;\n\n" ++
    "#[allow(dead_code, non_upper_case_globals)]\nimpl LocaleKeys \x7b\n"

/-- What stands behind the declarations. -/
def foot : String :=
  "\x7d\n"

/-- The line that declares the constant of an entry. -/
def declaration (entry : Entry) : String :=
  "    pub const " ++ Text.renderIdentifier entry.symbol ++ ": &'static str = " ++
    Text.literal entry.key ++ ";\n"

/-- The file with the constants of some entries. -/
def render (entries : List Entry) : String :=
  head ++ String.join (entries.map declaration) ++ foot

end Constants

end MessageCatalog
