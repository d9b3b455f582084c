import MessageCatalog.CommandLine.Help
import MessageCatalog.CommandLine.Reader
import MessageCatalog.Generation.Build
import MessageCatalog.Generation.Write
import MessageCatalog.Report
import MessageCatalog.Settings.Location

/-!
# Sessions

A session is one run of the program on a file system, from its arguments to its end.

## Main definitions

* `Ending` — how a session ends, with `Ending.exitCode`.
* `Failure` — what goes wrong inside a session.
* `Session` — a session at its end: the file system, what was printed and how it ended.
* `Session.generate`, `Session.init` — the sessions of the two commands.
* `Session.run` — the session of some arguments.
-/

namespace MessageCatalog

/-- What goes wrong inside a session. -/
inductive Failure where
  | settings (error : Settings.LoadError)
  | flawed (flaw : Settings.Flaw)
  | notWritten (error : WriteError)
  | settingsNotWritten (path : Path) (error : FileError)
  deriving DecidableEq, Repr

/-- The wording of a failure, with all that led to it. -/
def Failure.message : Failure → String
  | .settings error => error.message
  | .flawed flaw => flaw.message
  | .notWritten error =>
    "Failed to write generated files: " ++ error.message ++ ": " ++ error.error.message
  | .settingsNotWritten path error => "Failed to write " ++ path.text ++ ": " ++ error.message

/-- How a session ends. -/
inductive Ending where
  /-- The command did its work. -/
  | done
  /-- The input did not let it, and nothing was written. -/
  | prevented
  /-- The arguments led to no command. -/
  | stopped (stop : CommandLine.Stop)
  /-- Something went wrong. -/
  | failed (failure : Failure)
  deriving DecidableEq, Repr

/-- The exit code of a session. -/
def Ending.exitCode : Ending → Nat
  | .done => 0
  | .prevented => 1
  | .stopped stop => stop.exitCode
  | .failed _ => 2

/-- The path of the directory that relative paths start from. -/
def FileSystem.currentPath (fs : FileSystem) : Path :=
  Place.toPath fs.workingDirectory

/-- A session at its end. -/
structure Session where
  fileSystem : FileSystem
  stdout : String
  stderr : String
  ending : Ending

namespace Session

/-- Whether a session may use styles, and the variables that it sees. -/
structure Setting where
  colored : Bool := false
  environment : CommandLine.Environment := {}

/-- The settings that count in a session, with the file that they come from. -/
def settingsFor (overrides : CommandLine.Overrides) (fs : FileSystem) :
    Except Failure (Settings × Option Path) :=
  match Settings.load fs fs.currentPath with
  | .error error => .error (.settings error)
  | .ok (settings, path) =>
    match (overrides.apply settings).flaw? with
    | some flaw => .error (.flawed flaw)
    | none => .ok (overrides.apply settings, path)

/-- What is printed about a run before anything is written, if it is asked for. -/
def preamble (colored : Bool) (overrides : CommandLine.Overrides) (path : Option Path) : String :=
  if overrides.verbose then Report.settingsSource colored path else ""

/-- What is printed about the documents of a run, if it is asked for. -/
def documentLines (colored : Bool) (overrides : CommandLine.Overrides) (made : Generation) :
    String :=
  if overrides.verbose then
    String.join (made.documents.map (Report.document colored made.reference))
  else ""

/-- What is printed about the warnings of a run. -/
def warningLines (colored : Bool) (made : Generation) : String :=
  String.join (made.warnings.map (Report.warning colored))

/-- The session that writes a generation. -/
def write (colored : Bool) (stdout : String) (made : Generation) (fs : FileSystem) : Session :=
  match made.write fs with
  | (after, .ok ()) =>
    ⟨after, stdout ++ Report.generated colored made, warningLines colored made, .done⟩
  | (after, .error error) =>
    ⟨after, stdout, warningLines colored made, .failed (.notWritten error)⟩

/-- The session of `generate`. -/
def generate (colored : Bool) (overrides : CommandLine.Overrides) (fs : FileSystem) : Session :=
  match settingsFor overrides fs with
  | .error failure => ⟨fs, "", "", .failed failure⟩
  | .ok (settings, path) =>
    match MessageCatalog.generate fs fs.currentPath settings with
    | .error error =>
      ⟨fs, preamble colored overrides path,
        Report.error colored error.message ++ Report.failure colored "Generation failed",
        .prevented⟩
    | .ok made =>
      write colored (preamble colored overrides path ++ documentLines colored overrides made)
        made fs

/-- The session of `init`. -/
def init (colored : Bool) (fs : FileSystem) : Session :=
  let path := fs.currentPath.join Settings.fileName
  if fs.exists? path then
    ⟨fs, "", Report.error colored (Settings.fileName.text ++ " already exists"), .prevented⟩
  else
    match fs.writeFile path (Settings.defaults.render ++ "\n").toUTF8 with
    | .ok after => ⟨after, Report.created colored Settings.fileName.text, "", .done⟩
    | .error error => ⟨fs, "", "", .failed (.settingsNotWritten path error)⟩

/-- The session of some arguments. -/
def run (setting : Setting) (args : List String) (fs : FileSystem) : Session :=
  match CommandLine.read setting.environment args with
  | .error stop => ⟨fs, (stop.text? setting.environment).getD "", "", .stopped stop⟩
  | .ok none => ⟨fs, CommandLine.Page.text setting.environment .overview, "", .done⟩
  | .ok (some .init) => init setting.colored fs
  | .ok (some (.generate overrides)) => generate setting.colored overrides fs

end Session

end MessageCatalog
