import MessageCatalog.CommandLine

/-!
# Options

An option has a long name, some have a letter as well. A parameter takes a value and a switch takes
none.

## Main definitions

* `Parameter`, `Switch`, `Item` — the options.
* `Page.items` — the options that a command knows.
* `Overrides.accept` — what is said when a parameter is given its value.
* `Overrides.raise` — what is said when a switch is given.
* `Overrides.fillFrom` — the variables that stand in for options that are not given.
-/

namespace MessageCatalog.CommandLine

/-- An option that takes a value. -/
inductive Parameter where
  | sourceDir
  | sourceFile
  | outputDir
  | keysFile
  | messagesFile
  | referenceLocale
  | maxDepth
  deriving DecidableEq, Repr

/-- An option that takes no value. -/
inductive Switch where
  | strict
  | skipBranchKeys
  | verbose
  | help
  | version
  deriving DecidableEq, Repr

/-- An option. -/
inductive Item where
  | parameter (parameter : Parameter)
  | switch (switch : Switch)
  deriving DecidableEq, Repr

namespace Item

/-- The name of an option behind its two dashes. -/
def long : Item → String
  | .parameter .sourceDir => "source-dir"
  | .parameter .sourceFile => "source-file"
  | .parameter .outputDir => "output-dir"
  | .parameter .keysFile => "keys-file"
  | .parameter .messagesFile => "messages-file"
  | .parameter .referenceLocale => "reference-locale"
  | .parameter .maxDepth => "max-depth"
  | .switch .strict => "strict"
  | .switch .skipBranchKeys => "skip-branch-keys"
  | .switch .verbose => "verbose"
  | .switch .help => "help"
  | .switch .version => "version"

/-- The letter of an option, if it has one. -/
def short? : Item → Option Char
  | .parameter .sourceDir => some 'S'
  | .parameter .sourceFile => some 's'
  | .parameter .outputDir => some 'O'
  | .switch .verbose => some 'v'
  | .switch .help => some 'h'
  | .switch .version => some 'V'
  | _ => none

end Item

namespace Page

/-- The options that a command knows. -/
def items : Page → List Item
  | .overview => [.switch .help, .switch .version]
  | .generate =>
    [.parameter .sourceDir, .parameter .sourceFile, .parameter .outputDir, .parameter .keysFile,
      .parameter .messagesFile, .parameter .referenceLocale, .switch .strict,
      .switch .skipBranchKeys, .parameter .maxDepth, .switch .verbose, .switch .help]
  | .init => [.switch .help]
  | .help => []

/-- The option of a long name. -/
def long? (page : Page) (name : String) : Option Item :=
  page.items.find? fun item => item.long = name

/-- The option of a letter. -/
def short? (page : Page) (letter : Char) : Option Item :=
  page.items.find? fun item => item.short? = some letter

end Page

/-! ## Values -/

/-- The value of a parameter that is a path. -/
def pathValue (value : String) : Except Refusal String :=
  if value = "" then .error .missingValue else .ok value

/-- The number that some digits stand for. -/
def numberOf (digits : List Char) : Nat :=
  digits.foldl (fun number digit => number * 10 + (digit.toNat - '0'.toNat)) 0

/-- The value of a parameter that is a number of 64 bits; a plus sign may stand in front. -/
def countValue (value : String) : Except Refusal Nat :=
  let digits := match value.toList with
    | '+' :: rest => rest
    | cs => cs
  if digits ≠ [] ∧ digits.all Char.isDigit ∧ numberOf digits < Nat.pow 2 64 then
    .ok (numberOf digits)
  else .error .badValue

/-- The value of a parameter that may be given once. -/
def once {α : Type} (old : Option α) (value : Except Refusal α) : Except Refusal (Option α) :=
  if old.isSome then .error .repeatedOption else value.map some

namespace Overrides

/-- What is said when a parameter is given its value. -/
def accept (overrides : Overrides) (parameter : Parameter) (value : String) :
    Except Refusal Overrides :=
  match parameter with
  | .sourceDir =>
    (once overrides.sourceDir (pathValue value)).map fun v => { overrides with sourceDir := v }
  | .sourceFile =>
    (once overrides.sourceFile (pathValue value)).map fun v => { overrides with sourceFile := v }
  | .outputDir =>
    (once overrides.outputDir (pathValue value)).map fun v => { overrides with outputDir := v }
  | .keysFile => (once overrides.keysFile (.ok value)).map fun v => { overrides with keysFile := v }
  | .messagesFile =>
    (once overrides.messagesFile (.ok value)).map fun v => { overrides with messagesFile := v }
  | .referenceLocale =>
    (once overrides.referenceLocale (.ok value)).map fun v =>
      { overrides with referenceLocale := v }
  | .maxDepth =>
    (once overrides.maxDepth (countValue value)).map fun v => { overrides with maxDepth := v }

/-- Turns a switch on that may be given once. -/
def turnOn (old : Bool) (result : Overrides) : Except Stop Overrides :=
  if old then .error (.refused .repeatedOption) else .ok result

/-- What is said when a switch is given; the last two end the reading of arguments. -/
def raise (overrides : Overrides) (page : Page) (switch : Switch) : Except Stop Overrides :=
  match switch with
  | .strict => turnOn overrides.strict { overrides with strict := true }
  | .skipBranchKeys => turnOn overrides.skipBranchKeys { overrides with skipBranchKeys := true }
  | .verbose => turnOn overrides.verbose { overrides with verbose := true }
  | .help => .error (.help page)
  | .version => .error .version

/-- Gives a parameter the value of a variable, if it has none and the variable is set. -/
def fill (overrides : Overrides) (parameter : Parameter) (given value : Option String) :
    Except Refusal Overrides :=
  match given, value with
  | none, some value => overrides.accept parameter value
  | _, _ => .ok overrides

/-- What the options say together with the variables. -/
def fillFrom (overrides : Overrides) (environment : Environment) : Except Refusal Overrides := do
  let overrides ← overrides.fill .sourceDir overrides.sourceDir environment.sourceDir
  let overrides ← overrides.fill .sourceFile overrides.sourceFile environment.sourceFile
  overrides.fill .outputDir overrides.outputDir environment.outputDir

end Overrides

end MessageCatalog.CommandLine
