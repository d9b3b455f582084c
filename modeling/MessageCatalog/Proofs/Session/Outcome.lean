import MessageCatalog.Proofs.Generation.FailedWrite
import MessageCatalog.Proofs.Generation.Origin
import MessageCatalog.Session

/-!
# What a session comes to

A session goes through its arguments, its settings and its sources before it writes anything. What
stops it on the way leaves all files alone; what goes wrong in writing ends it in another way.

## Main definitions

* `Session.Course` — all that a session can come to.
* `Session.StoppedEarly`, `Session.Prevented` — a session ends before it writes anything.
* `Session.SaysNothingWritten` — a session tells that no files were written.

## Main results

* `Session.course_run`: every session takes one of these courses
* `Session.Course.exitCode_eq_one_iff_prevented`: when a session exits with 1
* `Session.outcome_of_run`: which files, exit codes and reports a session leaves
-/

namespace MessageCatalog.Session

variable {setting : Setting} {args : List String} {fs : FileSystem}

/-- All that a session can come to, from its arguments to its end. -/
inductive Course (setting : Setting) (args : List String) (fs : FileSystem) : Session → Prop where
  /-- The arguments lead to no command. -/
  | stopped {stop : CommandLine.Stop} :
      CommandLine.read setting.environment args = .error stop →
      Course setting args fs ⟨fs, (stop.text? setting.environment).getD "", "", .stopped stop⟩
  /-- No command is given. -/
  | overview :
      CommandLine.read setting.environment args = .ok none →
      Course setting args fs
        ⟨fs, CommandLine.Page.text setting.environment .overview, "", .done⟩
  /-- There is a settings file already. -/
  | settingsThere :
      CommandLine.read setting.environment args = .ok (some .init) →
      fs.exists? (fs.currentPath.join Settings.fileName) = true →
      Course setting args fs
        ⟨fs, "", Report.error setting.colored (Settings.fileName.text ++ " already exists"),
          .prevented⟩
  /-- A settings file cannot be written. -/
  | settingsNotWritten {error : FileError} :
      CommandLine.read setting.environment args = .ok (some .init) →
      fs.exists? (fs.currentPath.join Settings.fileName) = false →
      fs.writeFile (fs.currentPath.join Settings.fileName)
        (Settings.defaults.render ++ "\n").toUTF8 = .error error →
      Course setting args fs
        ⟨fs, "", "",
          .failed (.settingsNotWritten (fs.currentPath.join Settings.fileName) error)⟩
  /-- A settings file is written. -/
  | settingsWritten {after : FileSystem} :
      CommandLine.read setting.environment args = .ok (some .init) →
      fs.exists? (fs.currentPath.join Settings.fileName) = false →
      fs.writeFile (fs.currentPath.join Settings.fileName)
        (Settings.defaults.render ++ "\n").toUTF8 = .ok after →
      Course setting args fs
        ⟨after, Report.created setting.colored Settings.fileName.text, "", .done⟩
  /-- The settings are not read or not accepted. -/
  | noSettings {overrides : CommandLine.Overrides} {failure : Failure} :
      CommandLine.read setting.environment args = .ok (some (.generate overrides)) →
      settingsFor overrides fs = .error failure →
      Course setting args fs ⟨fs, "", "", .failed failure⟩
  /-- There is nothing to write. -/
  | nothingMade {overrides : CommandLine.Overrides} {settings : Settings} {path : Option Path}
      {error : GenerationError} :
      CommandLine.read setting.environment args = .ok (some (.generate overrides)) →
      settingsFor overrides fs = .ok (settings, path) →
      MessageCatalog.generate fs fs.currentPath settings = .error error →
      Course setting args fs
        ⟨fs, preamble setting.colored overrides path,
          Report.error setting.colored error.message ++
            Report.failure setting.colored "Generation failed", .prevented⟩
  /-- A generation cannot be written. -/
  | notWritten {overrides : CommandLine.Overrides} {settings : Settings} {path : Option Path}
      {made : Generation} {after : FileSystem} {error : WriteError} :
      CommandLine.read setting.environment args = .ok (some (.generate overrides)) →
      settingsFor overrides fs = .ok (settings, path) →
      MessageCatalog.generate fs fs.currentPath settings = .ok made →
      made.write fs = (after, .error error) →
      Course setting args fs
        ⟨after, preamble setting.colored overrides path ++
            documentLines setting.colored overrides made,
          warningLines setting.colored made, .failed (.notWritten error)⟩
  /-- A generation is written. -/
  | written {overrides : CommandLine.Overrides} {settings : Settings} {path : Option Path}
      {made : Generation} {after : FileSystem} :
      CommandLine.read setting.environment args = .ok (some (.generate overrides)) →
      settingsFor overrides fs = .ok (settings, path) →
      MessageCatalog.generate fs fs.currentPath settings = .ok made →
      made.write fs = (after, .ok ()) →
      Course setting args fs
        ⟨after, preamble setting.colored overrides path ++
            documentLines setting.colored overrides made ++ Report.generated setting.colored made,
          warningLines setting.colored made, .done⟩

/-- A session of `init` takes one of three courses. -/
theorem course_init (hread : CommandLine.read setting.environment args = .ok (some .init)) :
    Course setting args fs (init setting.colored fs) := by
  rw [init]
  split
  · next hthere => exact .settingsThere hread hthere
  · next hthere =>
    rw [Bool.not_eq_true] at hthere
    split
    · next hwrite => exact .settingsWritten hread hthere hwrite
    · next hwrite => exact .settingsNotWritten hread hthere hwrite

/-- A session of `generate` takes one of four courses. -/
theorem course_generate {overrides : CommandLine.Overrides}
    (hread : CommandLine.read setting.environment args = .ok (some (.generate overrides))) :
    Course setting args fs (generate setting.colored overrides fs) := by
  unfold generate
  split
  · next hsettings => exact .noSettings hread hsettings
  · next hsettings =>
    split
    · next hmade => exact .nothingMade hread hsettings hmade
    · next hmade =>
      unfold write
      split
      · next hwrite => exact .written hread hsettings hmade hwrite
      · next hwrite => exact .notWritten hread hsettings hmade hwrite

variable (setting args fs) in
/-- **Every session takes one of these courses.** -/
theorem course_run : Course setting args fs (run setting args fs) := by
  rw [run]
  split
  · next hread => exact .stopped hread
  · next hread => exact .overview hread
  · next hread => exact course_init hread
  · next hread => exact course_generate hread

/-! ## Exit codes -/

/-- A session is stopped before it writes: its arguments are refused, or its settings are not read
or not accepted. -/
def StoppedEarly (setting : Setting) (args : List String) (fs : FileSystem) : Prop :=
  (∃ refusal, CommandLine.read setting.environment args = .error (.refused refusal)) ∨
    ∃ overrides failure,
      CommandLine.read setting.environment args = .ok (some (.generate overrides)) ∧
        settingsFor overrides fs = .error failure

/-- A session is prevented: there is a settings file already, or there is nothing to write. -/
def Prevented (setting : Setting) (args : List String) (fs : FileSystem) : Prop :=
  (CommandLine.read setting.environment args = .ok (some .init) ∧
      fs.exists? (fs.currentPath.join Settings.fileName) = true) ∨
    ∃ overrides settings path error,
      CommandLine.read setting.environment args = .ok (some (.generate overrides)) ∧
        settingsFor overrides fs = .ok (settings, path) ∧
        MessageCatalog.generate fs fs.currentPath settings = .error error

/-- The exit code 1 is that of a session that is prevented. -/
theorem exitCode_eq_one_iff {ending : Ending} : ending.exitCode = 1 ↔ ending = .prevented := by
  cases ending with
  | stopped stop => cases stop <;> simp [Ending.exitCode, CommandLine.Stop.exitCode]
  | done | prevented | failed => simp [Ending.exitCode]

namespace Course

variable {session : Session} (h : Course setting args fs session)

include h

/-- **When a session exits with 1.** -/
theorem exitCode_eq_one_iff_prevented :
    session.ending.exitCode = 1 ↔ Prevented setting args fs := by
  rw [exitCode_eq_one_iff, Prevented]
  cases h <;> simp [*]

/-- A session that is prevented leaves all files alone. -/
theorem fileSystem_of_prevented (hprevented : Prevented setting args fs) :
    session.fileSystem = fs := by
  rw [Prevented] at hprevented
  cases h <;> simp_all

/-- A session that is stopped early leaves all files alone, and exits with 2. -/
theorem fileSystem_of_stoppedEarly (hstopped : StoppedEarly setting args fs) :
    session.fileSystem = fs ∧ session.ending.exitCode = 2 := by
  rcases hstopped with ⟨refusal, hread⟩ | ⟨overrides, failure, hread, hsettings⟩ <;>
    cases h <;> simp_all [Ending.exitCode, CommandLine.Stop.exitCode]

end Course

/-! ## Reports -/

/-- A session tells that a generation failed and no files were written. -/
def SaysNothingWritten (setting : Setting) (session : Session) : Prop :=
  ∃ message, session.stderr =
    Report.error setting.colored message ++ Report.failure setting.colored "Generation failed"

theorem toList_paint_true (style : Text.Style) (text : String) :
    (style.paint true text).toList =
      style.start ++ style.resume text.toList ++ Text.Style.stop := by
  simp [Text.Style.paint, Text.Style.apply]

theorem error_append_ne_empty (colored : Bool) (message rest : String) :
    Report.error colored message ++ rest ≠ "" := by
  simp [Report.error]

/-- The line about an error starts as no line about a warning does. -/
theorem error_append_ne_warningLines (colored : Bool) (message rest : String)
    (made : Generation) : Report.error colored message ++ rest ≠ warningLines colored made := by
  rw [warningLines]
  cases made.warnings with
  | nil => exact error_append_ne_empty colored message rest
  | cons warning warnings =>
    intro h
    have hchars := congrArg String.toList h
    -- the colours of the first words differ, and without colours the words do
    cases colored <;>
      simp [Report.error, Report.warning, toList_paint_true, Text.Style.start,
        Text.Style.codes] at hchars

/-- **What a session says is true**: one that tells that no files were written is prevented. -/
theorem Course.prevented_of_saysNothingWritten {session : Session}
    (h : Course setting args fs session) (htold : SaysNothingWritten setting session) :
    Prevented setting args fs := by
  obtain ⟨message, hstderr⟩ := htold
  cases h with
  | settingsThere hread hthere => exact .inl ⟨hread, hthere⟩
  | nothingMade hread hsettings hmade => exact .inr ⟨_, _, _, _, hread, hsettings, hmade⟩
  | stopped | overview | settingsNotWritten | settingsWritten | noSettings =>
    exact absurd hstderr.symm (error_append_ne_empty _ _ _)
  | notWritten | written => exact absurd hstderr.symm (error_append_ne_warningLines _ _ _ _)

/-! ## Failures of writing -/

/-- **A generation that cannot be written**: what the write left stays, and only its warnings are
told. -/
theorem Course.eq_of_write_eq_error {session : Session} (h : Course setting args fs session)
    {overrides : CommandLine.Overrides} {settings : Settings} {path : Option Path}
    {made : Generation} {after : FileSystem} {error : WriteError}
    (hread : CommandLine.read setting.environment args = .ok (some (.generate overrides)))
    (hsettings : settingsFor overrides fs = .ok (settings, path))
    (hmade : MessageCatalog.generate fs fs.currentPath settings = .ok made)
    (hwrite : made.write fs = (after, .error error)) :
    session.fileSystem = after ∧ session.stderr = warningLines setting.colored made ∧
      session.ending = .failed (.notWritten error) := by
  cases h <;> simp_all

/-- **Settings that cannot be written**: all files are left alone, and nothing is told but the
failure. -/
theorem Course.eq_of_writeFile_eq_error {session : Session} (h : Course setting args fs session)
    {error : FileError}
    (hread : CommandLine.read setting.environment args = .ok (some .init))
    (hfree : fs.exists? (fs.currentPath.join Settings.fileName) = false)
    (hwrite : fs.writeFile (fs.currentPath.join Settings.fileName)
      (Settings.defaults.render ++ "\n").toUTF8 = .error error) :
    session.fileSystem = fs ∧ session.stderr = "" ∧ session.ending =
      .failed (.settingsNotWritten (fs.currentPath.join Settings.fileName) error) := by
  cases h <;> simp_all

/-! ## All sessions -/

variable (setting args fs) in
/-- **The exit code of a session and its files.** A session that exits with 1 or is stopped early
leaves all files alone. It exits with 1 if `init` finds a settings file, or if nothing is made with
the settings that count in the end, and in no other case. Where a write fails, it exits with 2 and
does not tell that no files were written; a session that does tell so leaves all files alone. -/
theorem outcome_of_run :
    ((run setting args fs).ending.exitCode = 1 ∨ StoppedEarly setting args fs →
      (run setting args fs).fileSystem = fs) ∧
    ((run setting args fs).ending.exitCode = 1 ↔
      (CommandLine.read setting.environment args = .ok (some .init) ∧
        fs.exists? (fs.currentPath.join Settings.fileName) = true) ∨
      ∃ overrides settings path error,
        CommandLine.read setting.environment args = .ok (some (.generate overrides)) ∧
          settingsFor overrides fs = .ok (settings, path) ∧
          MessageCatalog.generate fs fs.currentPath settings = .error error) ∧
    (∀ overrides settings path made after error,
      CommandLine.read setting.environment args = .ok (some (.generate overrides)) →
      settingsFor overrides fs = .ok (settings, path) →
      MessageCatalog.generate fs fs.currentPath settings = .ok made →
      made.write fs = (after, .error error) →
      (run setting args fs).ending = .failed (.notWritten error) ∧
        (run setting args fs).ending.exitCode = 2 ∧
        (run setting args fs).stderr = warningLines setting.colored made ∧
        ¬ SaysNothingWritten setting (run setting args fs)) ∧
    (∀ error, CommandLine.read setting.environment args = .ok (some .init) →
      fs.exists? (fs.currentPath.join Settings.fileName) = false →
      fs.writeFile (fs.currentPath.join Settings.fileName)
        (Settings.defaults.render ++ "\n").toUTF8 = .error error →
      (run setting args fs).ending.exitCode = 2 ∧ (run setting args fs).stderr = "") ∧
    (SaysNothingWritten setting (run setting args fs) →
      (run setting args fs).ending.exitCode = 1 ∧ (run setting args fs).fileSystem = fs) := by
  have hcourse := course_run setting args fs
  have hprevented := hcourse.exitCode_eq_one_iff_prevented
  refine ⟨?_, hprevented, ?_, ?_, ?_⟩
  · rintro (hone | hstopped)
    · exact hcourse.fileSystem_of_prevented (hprevented.mp hone)
    · exact (hcourse.fileSystem_of_stoppedEarly hstopped).1
  · intro overrides settings path made after error hread hsettings hmade hwrite
    obtain ⟨-, hstderr, hending⟩ := hcourse.eq_of_write_eq_error hread hsettings hmade hwrite
    refine ⟨hending, by rw [hending, Ending.exitCode], hstderr, ?_⟩
    rintro ⟨message, htold⟩
    exact error_append_ne_warningLines _ _ _ _ (htold.symm.trans hstderr)
  · intro error hread hfree hwrite
    obtain ⟨-, hstderr, hending⟩ := hcourse.eq_of_writeFile_eq_error hread hfree hwrite
    exact ⟨by rw [hending, Ending.exitCode], hstderr⟩
  · intro htold
    have h := hcourse.prevented_of_saysNothingWritten htold
    exact ⟨hprevented.mpr h, hcourse.fileSystem_of_prevented h⟩

open Generation (blockedProject englishOnly)

/-- Arguments that ask for one source file. -/
def englishArgs : List String :=
  ["generate", "--source-file", "en.json"]

/-- A directory is in the place of the messages: the session exits with 2 after the constants have
been replaced, and does not tell that no files were written. -/
theorem outcome_of_run_blockedProject :
    (run {} englishArgs blockedProject).ending.exitCode = 2 ∧
      ¬ SaysNothingWritten {} (run {} englishArgs blockedProject) ∧
      (run {} englishArgs blockedProject).fileSystem ≠ blockedProject := by
  have hread : CommandLine.read {} englishArgs =
      .ok (some (.generate { sourceFile := some "en.json" })) := by
    decide +kernel
  have hsettings : settingsFor { sourceFile := some "en.json" } blockedProject =
      .ok (englishOnly, none) := by
    decide +kernel
  have hcheck : isOkAnd
      (MessageCatalog.generate blockedProject blockedProject.currentPath englishOnly) (fun made =>
        (made.write blockedProject).2.isOk = false ∧
          (made.write blockedProject).1.found made.keys.path ≠
            blockedProject.found made.keys.path) = true := by
    decide +kernel
  obtain ⟨made, hmade, hfacts⟩ := exists_of_isOkAnd hcheck
  obtain ⟨hfailed, hchanged⟩ := of_decide_eq_true hfacts
  cases hwrite : made.write blockedProject with
  | mk after result =>
    rw [hwrite] at hchanged hfailed
    cases result with
    | ok => cases hfailed
    | error error =>
      obtain ⟨-, -, hwritten, -⟩ := outcome_of_run {} englishArgs blockedProject
      obtain ⟨-, hexit, -, htold⟩ := hwritten _ _ _ _ _ _ hread hsettings hmade hwrite
      have hcourse := course_run {} englishArgs blockedProject
      obtain ⟨hafter, -⟩ := hcourse.eq_of_write_eq_error hread hsettings hmade hwrite
      refine ⟨hexit, htold, ?_⟩
      rw [hafter]
      rintro rfl
      exact hchanged rfl

end MessageCatalog.Session
