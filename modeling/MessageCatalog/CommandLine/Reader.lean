import MessageCatalog.CommandLine.Options

/-!
# Reading arguments

A parameter that is given without a value takes the next word, unless that word looks like an
option. What is wrong with the value is only seen when the next option that is known is given, or at
the end of the arguments; what is wrong with a word itself is seen at once.

## Main definitions

* `Word.ofString` — what kind of argument a word is.
* `Progress` — what the arguments so far say, and the parameter that may still take a word.
* `readLong`, `readCluster`, `readWords` — the options of a command.
* `read` — the command of some arguments.
-/

namespace MessageCatalog.CommandLine

/-- The kinds of arguments. -/
inductive Word where
  /-- Two dashes, which end the options. -/
  | dashes
  /-- A long name, and the value that is joined to it. -/
  | long (name : String) (value : Option String)
  /-- Letters behind one dash. -/
  | cluster (letters : List Char)
  /-- Anything else. -/
  | plain
  deriving DecidableEq, Repr

/-- A long option with the value behind its equals sign. -/
def Word.ofLong (cs : List Char) : Word :=
  let name := cs.takeWhile (· ≠ '=')
  match cs.drop name.length with
  | [] => .long (String.ofList name) none
  | _ :: value => .long (String.ofList name) (some (String.ofList value))

/-- What kind of argument a word is. A dash that stands alone is a value. -/
def Word.ofString (word : String) : Word :=
  match word.toList with
  | ['-', '-'] => .dashes
  | '-' :: '-' :: cs => .ofLong cs
  | '-' :: c :: cs => .cluster (c :: cs)
  | _ => .plain

/-- What the arguments so far say, and the parameter that was given last without a joined value,
with the word it took if it took one. -/
structure Progress where
  overrides : Overrides := {}
  waiting : Option (Parameter × Option String) := none
  deriving DecidableEq, Repr

namespace Progress

/-- Gives a parameter its value. -/
def accept (overrides : Overrides) (parameter : Parameter) (value : String) :
    Except Stop Progress :=
  match overrides.accept parameter value with
  | .ok overrides => .ok ⟨overrides, none⟩
  | .error refusal => .error (.refused refusal)

/-- Gives the parameter that was given last the word it took. -/
def settle (progress : Progress) : Except Stop Progress :=
  match progress.waiting with
  | none => .ok progress
  | some (_, none) => .error (.refused .missingValue)
  | some (parameter, some value) => accept progress.overrides parameter value

/-- A switch is given. -/
def raise (progress : Progress) (page : Page) (switch : Switch) : Except Stop Progress := do
  let progress ← progress.settle
  let overrides ← progress.overrides.raise page switch
  return ⟨overrides, none⟩

/-- A parameter is given with the value that is joined to it, or to wait for one. -/
def give (progress : Progress) (parameter : Parameter) (value : Option String) :
    Except Stop Progress := do
  let progress ← progress.settle
  match value with
  | some value => accept progress.overrides parameter value
  | none => return { progress with waiting := some (parameter, none) }

end Progress

/-- Reads a long option. -/
def readLong (page : Page) (progress : Progress) (name : String) (value : Option String) :
    Except Stop Progress :=
  match page.long? name, value with
  | none, _ => .error (.refused .unknownArgument)
  | some (.parameter parameter), value => progress.give parameter value
  | some (.switch switch), none => progress.raise page switch
  | some (.switch _), some _ => .error (.refused .unexpectedValue)

/-- The value that is joined to a letter; an equals sign in front does not belong to it. -/
def joinedValue : List Char → Option String
  | [] => none
  | '=' :: value => some (String.ofList value)
  | value => some (String.ofList value)

/-- Reads the letters behind one dash. -/
def readCluster (page : Page) : Progress → List Char → Except Stop Progress
  | progress, [] => .ok progress
  | progress, letter :: rest =>
    match page.short? letter with
    | none => .error (.refused .unknownArgument)
    | some (.parameter parameter) => progress.give parameter (joinedValue rest)
    | some (.switch switch) =>
      match progress.raise page switch with
      | .ok progress => readCluster page progress rest
      | .error stop => .error stop

/-- Reads the options of a command. -/
def readWords (page : Page) : Progress → List String → Except Stop Progress
  | progress, [] => progress.settle
  | progress, word :: rest =>
    match Word.ofString word with
    | .dashes => if rest.isEmpty then progress.settle else .error (.refused .unknownArgument)
    | .long name value =>
      match readLong page progress name value with
      | .ok progress => readWords page progress rest
      | .error stop => .error stop
    | .cluster letters =>
      match readCluster page progress letters with
      | .ok progress => readWords page progress rest
      | .error stop => .error stop
    | .plain =>
      -- no command takes arguments of its own, so a word can only be a value
      match progress.waiting with
      | some (parameter, none) =>
        readWords page { progress with waiting := some (parameter, some word) } rest
      | _ => .error (.refused .unknownArgument)

/-- The page of a command by its name. -/
def Page.ofName? (name : String) : Option Page :=
  if name = "generate" then some .generate
  else if name = "init" then some .init
  else if name = "help" then some .help
  else none

/-- The page of help that some words ask for; commands have no commands of their own. -/
def readHelp : List String → Stop
  | [] => .help .overview
  | [name] =>
    match Page.ofName? name with
    | some page => .help page
    | none => .refused .unknownCommand
  | _ => .refused .unknownCommand

/-- Reads the arguments behind `generate`. -/
def readGenerate (environment : Environment) (args : List String) : Except Stop Command := do
  let progress ← readWords .generate {} args
  match progress.overrides.fillFrom environment with
  | .ok overrides => return .generate overrides
  | .error refusal => throw (.refused refusal)

/-- Reads the arguments behind `init`. -/
def readInit (args : List String) : Except Stop Command :=
  (readWords .init {} args).map fun _ => .init

/-- The command of some arguments, if there is one. -/
def read (environment : Environment) : List String → Except Stop (Option Command)
  | [] => .ok none
  | word :: rest =>
    match Word.ofString word with
    | .dashes =>
      match rest with
      | [] => .ok none
      | next :: _ =>
        .error (.refused (if (Page.ofName? next).isSome then .unknownArgument else .unknownCommand))
    | .long name value =>
      match readLong .overview {} name value with
      | .ok _ => read environment rest
      | .error stop => .error stop
    | .cluster letters =>
      match readCluster .overview {} letters with
      | .ok _ => read environment rest
      | .error stop => .error stop
    | .plain =>
      match Page.ofName? word with
      | some .generate => (readGenerate environment rest).map some
      | some .init => (readInit rest).map some
      | some .help => .error (readHelp rest)
      | _ => .error (.refused .unknownCommand)

end MessageCatalog.CommandLine
