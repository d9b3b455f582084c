import MessageCatalog.CommandLine.Options
import MessageCatalog.Text.Plain
import MessageCatalog.Text.Style

/-!
# Help

A page of help is laid out with styles: headings are underlined, and what is typed as it stands is
bold. It is shown as plain text. An escape sequence in the value of a variable is therefore not
shown either, and one that is not finished reaches up to the next style.

## Main definitions

* `CommandLine.versionText` — what is shown for the version.
* `CommandLine.Page.layout` — a page of help with its styles.
* `CommandLine.Page.text` — what is shown for a page of help.
-/

namespace MessageCatalog.CommandLine

open Text (Style)

/-- What is shown for the version. -/
def versionText : String :=
  "glotgen 0.1.0\n"

/-! ## Parts of a page -/

/-- A heading. -/
def heading (title : String) : String :=
  Style.apply .boldUnderlined (title ++ ":")

/-- What is typed as it stands. -/
def verbatim (text : String) : String :=
  Style.apply .bold text

/-- The line about how a command is called. -/
def usageLine (call rest : String) : String :=
  heading "Usage" ++ " " ++ verbatim call ++ rest ++ "\n"

/-- The line with the spellings of an option, given what stands for its value. -/
def optionLine (item : Item) (value : String) : String :=
  "  " ++
    (match item.short? with
      | some letter => verbatim ("-" ++ letter.toString) ++ ", "
      | none => "    ") ++
    verbatim ("--" ++ item.long) ++ value ++ "\n"

/-- A line of a description. A line break inside it keeps the indentation of descriptions. -/
def descriptionLine (text : String) : String :=
  "          " ++ String.join (text.toList.map fun c =>
    if c = '\n' then "\n          " else c.toString) ++ "\n"

/-- The description of an option with the variable that stands in for it. -/
def variableLine (description name : String) (value : Option String) : String :=
  descriptionLine (description ++ " [env: " ++ name ++ "=" ++ value.getD "" ++ "]")

/-- A row of a table of two columns, given the blanks between them. -/
def row (name gap description : String) : String :=
  "  " ++ verbatim name ++ gap ++ description ++ "\n"

/-! ## The pages -/

/-- The page of the program as a whole. -/
def overviewLayout : String :=
  "Generate typed Rust locale key constants and embedded message tables from JSON dictionaries\n" ++
    "\n" ++ usageLine "glotgen" " [COMMAND]" ++ "\n" ++ heading "Commands" ++ "\n" ++
    row "generate" "  " "Generate locale key constants and the embedded message table" ++
    row "init" "      " "Initialize a new .glotgenrc.json configuration file" ++
    row "help" "      " "Print this message or the help of the given subcommand(s)" ++
    "\n" ++ heading "Options" ++ "\n" ++
    "  " ++ verbatim "-h" ++ ", " ++ verbatim "--help" ++ "     Print help\n" ++
    "  " ++ verbatim "-V" ++ ", " ++ verbatim "--version" ++ "  Print version\n"

/-- The page of `generate`. -/
def generateLayout (environment : Environment) : String :=
  "Generate locale key constants and the embedded message table\n\n" ++
    usageLine "glotgen generate" " [OPTIONS]" ++ "\n" ++ heading "Options" ++ "\n" ++
    optionLine (.parameter .sourceDir) " <SOURCE_DIR>" ++
    variableLine "Folder containing the localization JSON files (overrides config file)"
      "GLOTGEN_SOURCE_DIR" environment.sourceDir ++
    optionLine (.parameter .sourceFile) " <SOURCE_FILE>" ++
    variableLine "Use only this file inside the source folder"
      "GLOTGEN_SOURCE_FILE" environment.sourceFile ++
    optionLine (.parameter .outputDir) " <OUTPUT_DIR>" ++
    variableLine "Output folder for the generated files (overrides config file)"
      "GLOTGEN_OUTPUT_DIR" environment.outputDir ++
    optionLine (.parameter .keysFile) " <KEYS_FILE>" ++
    descriptionLine "File name of the generated key constants" ++
    optionLine (.parameter .messagesFile) " <MESSAGES_FILE>" ++
    descriptionLine "File name of the generated message table" ++
    optionLine (.parameter .referenceLocale) " <REFERENCE_LOCALE>" ++
    descriptionLine "Locale whose keys become constants (default: first file by name)" ++
    optionLine (.switch .strict) "" ++
    descriptionLine "Fail on symbol collisions and invalid identifiers instead of warning" ++
    optionLine (.switch .skipBranchKeys) "" ++
    descriptionLine "Only generate constants for leaf keys" ++
    optionLine (.parameter .maxDepth) " <MAX_DEPTH>" ++
    descriptionLine "Maximum object nesting depth accepted in a document" ++
    optionLine (.switch .verbose) "" ++ descriptionLine "Enable verbose output" ++
    optionLine (.switch .help) "" ++ descriptionLine "Print help"

/-- The page of `init`. -/
def initLayout : String :=
  "Initialize a new .glotgenrc.json configuration file\n\n" ++
    usageLine "glotgen init" "" ++ "\n" ++ heading "Options" ++ "\n" ++
    "  " ++ verbatim "-h" ++ ", " ++ verbatim "--help" ++ "  Print help\n"

/-- The page of `help`. -/
def helpLayout : String :=
  "Print this message or the help of the given subcommand(s)\n\n" ++
    usageLine "glotgen help" " [COMMAND]..." ++ "\n" ++ heading "Arguments" ++ "\n" ++
    "  [COMMAND]...  Print help for the subcommand(s)\n"

/-- A page of help with its styles. -/
def Page.layout (environment : Environment) : Page → String
  | .overview => overviewLayout
  | .generate => generateLayout environment
  | .init => initLayout
  | .help => helpLayout

/-- What is shown for a page of help. -/
def Page.text (environment : Environment) (page : Page) : String :=
  Text.plain (page.layout environment)

/-- What is shown when some arguments lead to no command but are not refused. -/
def Stop.text? (environment : Environment) : Stop → Option String
  | .help page => some (page.text environment)
  | .version => some versionText
  | .refused _ => none

end MessageCatalog.CommandLine
