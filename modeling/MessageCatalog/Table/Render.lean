import MessageCatalog.Constants
import MessageCatalog.Table

/-!
# The file of messages

The rows of the table stand between a fixed head, which names the module to import from, and a fixed
foot.

## Main definitions

* `Table.renderRow`, `Table.renderLocale` — the lines of a message and of a locale.
* `Table.render` — the whole file.
-/

namespace MessageCatalog.Table

/-- What stands in front of the rows. -/
def head (runtimePath : String) : String :=
  generatedHeader ++ "\n\nuse " ++ runtimePath ++ "::\x7bMessages, TranslationProvider\x7d;\n\n" ++
    "pub static LOCALES: &[(&str, Messages)] = &[\n"

/-- What stands behind the rows. -/
def foot : String :=
  "];\n\npub struct CodegenLoader;\n\nimpl TranslationProvider for CodegenLoader \x7b\n" ++
    "    fn locales(&self) -> &'static [(&'static str, Messages)] \x7b\n" ++
    "        LOCALES\n    \x7d\n\x7d\n"

/-- The line of a message. -/
def renderRow (row : String × String) : String :=
  "        (" ++ Text.literal row.1 ++ ", " ++ Text.literal row.2 ++ "),\n"

/-- The lines of a locale. -/
def renderLocale (locale : String × Messages) : String :=
  if locale.2.isEmpty then "    (" ++ Text.literal locale.1 ++ ", &[]),\n"
  else
    "    (" ++ Text.literal locale.1 ++ ", &[\n" ++ String.join (locale.2.map renderRow) ++
      "    ]),\n"

/-- The file with the messages of a table. -/
def render (table : Table) (runtimePath : String) : String :=
  head runtimePath ++ String.join (table.map renderLocale) ++ foot

end MessageCatalog.Table
