import MessageCatalog.Settings

/-!
# The command line

The program has two commands. `generate` takes options that override the settings, and `init` writes
a settings file.

## Main definitions

* `CommandLine.Overrides` — what the options of `generate` say.
* `CommandLine.Overrides.apply` — the settings that count in the end.
* `CommandLine.Command` — a command with its options.
* `CommandLine.Refusal` — what is wrong with some arguments.
* `CommandLine.Stop` — why some arguments lead to no command.
-/

namespace MessageCatalog.CommandLine

/-- What the options of a run say; an option that is not given says nothing. -/
structure Overrides where
  sourceDir : Option String := none
  sourceFile : Option String := none
  outputDir : Option String := none
  keysFile : Option String := none
  messagesFile : Option String := none
  referenceLocale : Option String := none
  strict : Bool := false
  skipBranchKeys : Bool := false
  maxDepth : Option Nat := none
  verbose : Bool := false
  deriving DecidableEq, Repr

/-- Some settings with the options of a run. A switch can only be turned on. -/
def Overrides.apply (overrides : Overrides) (settings : Settings) : Settings where
  sourceDir := overrides.sourceDir.getD settings.sourceDir
  sourceFile := overrides.sourceFile.or settings.sourceFile
  outputDir := overrides.outputDir.getD settings.outputDir
  keysFile := overrides.keysFile.getD settings.keysFile
  messagesFile := overrides.messagesFile.getD settings.messagesFile
  referenceLocale := overrides.referenceLocale.or settings.referenceLocale
  strict := settings.strict || overrides.strict
  skipBranchKeys := settings.skipBranchKeys || overrides.skipBranchKeys
  maxDepth := overrides.maxDepth.getD settings.maxDepth
  runtimePath := settings.runtimePath

/-- The variables that stand in for options. -/
structure Environment where
  sourceDir : Option String := none
  sourceFile : Option String := none
  outputDir : Option String := none
  deriving DecidableEq, Repr

/-- A command with its options. -/
inductive Command where
  | generate (overrides : Overrides)
  | init
  deriving DecidableEq, Repr

/-- What is wrong with some arguments. -/
inductive Refusal where
  /-- An option that is not known, or a word too many. -/
  | unknownArgument
  /-- A word that is no command. -/
  | unknownCommand
  /-- An option without its value, or with an empty path. -/
  | missingValue
  /-- A value that is no number. -/
  | badValue
  /-- An option that is given again. -/
  | repeatedOption
  /-- A value for an option that takes none. -/
  | unexpectedValue
  deriving DecidableEq, Repr

/-- The wording of a refusal. -/
def Refusal.message : Refusal → String
  | .unknownArgument => "unexpected argument"
  | .unknownCommand => "unrecognized subcommand"
  | .missingValue => "a value is required for an option but none was supplied"
  | .badValue => "invalid value for an option"
  | .repeatedOption => "an option cannot be used multiple times"
  | .unexpectedValue => "unexpected value for an option"

/-- The pages of help. -/
inductive Page where
  | overview
  | generate
  | init
  | help
  deriving DecidableEq, Repr

/-- Why some arguments lead to no command. -/
inductive Stop where
  | help (page : Page)
  | version
  | refused (refusal : Refusal)
  deriving DecidableEq, Repr

/-- The exit code when there is no command. -/
def Stop.exitCode : Stop → Nat
  | .refused _ => 2
  | _ => 0

@[simp] theorem Overrides.apply_empty (settings : Settings) :
    ({} : Overrides).apply settings = settings := by
  cases settings
  simp [Overrides.apply]

end MessageCatalog.CommandLine
