import MessageCatalog.Proofs.Document.FileName
import MessageCatalog.Proofs.Generation.Listed
import MessageCatalog.Proofs.Session.Naming

/-!
# The settings file among the documents

The settings file is found on the way up from the working directory, and the documents are found by
their names in a folder. Nothing keeps the two apart: the name of a settings file is one that a
document may have, so where the folder is the directory of the settings file, this takes part as any
other file there does. All this is said of trees with proper names, as every session leaves them
(`Session.isWellNamed_run`).

## Main definitions

* `Session.sourceFolder` — the folder of the documents of a session.

## Main results

* `Settings.eq_fileName_of_documentNameOf`: no other file has the document name of a settings file
* `Session.exists_place_of_settingsFor`: settings come from a file that is found
* `Session.hasDocumentFrom_settingsFile_iff`, `Session.constantsFrom_settingsFile_iff`: when a
  settings file of its own name is a document, and when it is the reference
* `Session.settingsFile_comesFrom_iff`: the same for every settings file
-/

namespace MessageCatalog

/-! ## The name of the settings file -/

namespace Settings

theorem documentNameOf_fileName : documentNameOf fileName.text = ".glotgenrc" :=
  documentNameOf_append ".glotgenrc"

/-- No other file that may hold a document has the document name of a settings file. -/
theorem eq_fileName_of_documentNameOf {name : String} (hdocument : isDocumentFile name = true)
    (h : documentNameOf name = ".glotgenrc") : name = fileName.text := by
  rcases documentNameOf_eq_iff.mp h with ⟨rfl, -⟩ | rfl
  · cases hdocument
  · rfl

end Settings

namespace Session

variable {fs : FileSystem} {overrides : CommandLine.Overrides} {settings : Settings} {path : Path}
  {made : Generation}

/-- The folder of the documents of a session. -/
def sourceFolder (fs : FileSystem) (settings : Settings) : Path :=
  fs.currentPath.join ⟨settings.sourceDir⟩

/-- Settings that a file holds have been read from it. -/
theorem exists_place_of_ofFile (h : Settings.ofFile fs path = .ok settings) :
    ∃ place content, fs.locate path = .ok place ∧ fs.view place = some (.file content) := by
  unfold Settings.ofFile at h
  split at h
  · cases h
  next text hread =>
  obtain ⟨place, hplace, hview⟩ :=
    FileSystem.found_eq_some_iff.mp (FileSystem.readText_eq_ok_iff.mp hread)
  exact ⟨place, _, hplace, hview⟩

/-- Settings come from a file that is found. -/
theorem exists_place_of_settingsFor (h : settingsFor overrides fs = .ok (settings, some path)) :
    ∃ place content, fs.locate path = .ok place ∧ fs.view place = some (.file content) := by
  unfold settingsFor at h
  split at h
  · cases h
  next found source hload =>
  split at h
  · cases h
  obtain ⟨-, rfl⟩ := Prod.mk.inj (Except.ok.inj h)
  unfold Settings.load at hload
  split at hload
  · cases hload
  next other hfind =>
  cases hfile : Settings.ofFile fs other with
  | error e =>
    rw [hfile] at hload
    cases hload
  | ok read =>
    rw [hfile] at hload
    cases hload
    exact exists_place_of_ofFile hfile

section Folder

variable (hnamed : fs.root.isWellNamed = true)
  (hmade : MessageCatalog.generate fs fs.currentPath settings = .ok made)
  (hall : settings.sourceFile = none) {directory : Place} {content : ByteArray}
  (hfile : fs.view (directory ++ [Settings.fileName.text]) = some (.file content))

include hnamed hmade hall hfile

/-- **The settings file is a document** if the folder of the documents is its directory and it holds
a document; no other file there has its document name. -/
theorem hasDocumentFrom_settingsFile_iff :
    made.HasDocumentFrom fs (directory ++ [Settings.fileName.text]) ↔
      fs.locate (sourceFolder fs settings) = .ok directory ∧
        fs.holdsDocument settings.maxDepth ((sourceFolder fs settings).join Settings.fileName) =
          true := by
  refine (Generation.hasDocumentFrom_folder_iff hmade hnamed hall).trans ?_
  constructor
  · rintro ⟨other, name, hplace, hfolder, hdocument⟩
    obtain ⟨rfl, hname⟩ := List.append_inj' hplace rfl
    obtain rfl := List.singleton_inj.mp hname
    exact ⟨hfolder, hdocument.holds⟩
  · rintro ⟨hfolder, hholds⟩
    refine ⟨directory, _, rfl, hfolder, ⟨⟨content, hfile⟩, by decide +kernel⟩, hholds, ?_⟩
    intro other hother hlt _ hname
    rw [Settings.documentNameOf_fileName] at hname
    obtain rfl := Settings.eq_fileName_of_documentNameOf hother.isDocumentFile hname
    exact String.lt_irrefl _ hlt

/-- **The constants come from the settings file** if the folder of the documents is its directory
and it is asked for there, by its document name or as the first file. -/
theorem constantsFrom_settingsFile_iff :
    made.ConstantsFrom fs (directory ++ [Settings.fileName.text]) ↔
      fs.locate (sourceFolder fs settings) = .ok directory ∧
        (∀ wanted ∈ settings.referenceLocale, wanted = ".glotgenrc") ∧
        (settings.referenceLocale = none →
          ∀ other, fs.Offers directory other → ¬ other < Settings.fileName.text) := by
  refine (Generation.constantsFrom_folder_iff hmade hnamed hall).trans ?_
  constructor
  · rintro ⟨other, name, hplace, hfolder, hreference⟩
    obtain ⟨rfl, hname⟩ := List.append_inj' hplace rfl
    obtain rfl := List.singleton_inj.mp hname
    refine ⟨hfolder, fun wanted hwanted => ?_, fun hnone other hother hlt => ?_⟩
    · rw [← hreference.asked wanted hwanted, Settings.documentNameOf_fileName]
    · exact hreference.first other hother hlt (by simp [IsAsked, hnone])
  · rintro ⟨hfolder, hwanted, hsmallest⟩
    refine ⟨directory, _, rfl, hfolder, ⟨⟨content, hfile⟩, by decide +kernel⟩, ?_, ?_⟩
    · intro wanted hmem
      rw [hwanted wanted hmem, Settings.documentNameOf_fileName]
    · intro other hother hlt hasked
      cases hlocale : settings.referenceLocale with
      | none => exact hsmallest hlocale other hother hlt
      | some wanted =>
        have hname := hasked wanted hlocale
        rw [hwanted wanted hlocale] at hname
        obtain rfl := Settings.eq_fileName_of_documentNameOf hother.isDocumentFile hname
        exact String.lt_irrefl _ hlt

end Folder

/-- **The settings file among the documents.** In a run over one file it is the document and the
reference if the path of that file leads to it. In a run over a folder it is a document if the
folder is the directory it lies in, its name is that of a document, it holds one, and no file of a
smaller name there that holds one has its document name; it is the reference if it is the first file
there that is asked for. Where its path leads to a file of its own name, no other file has its
document name. -/
theorem settingsFile_comesFrom_iff (hnamed : fs.root.isWellNamed = true)
    (hsettings : settingsFor overrides fs = .ok (settings, some path))
    (hmade : MessageCatalog.generate fs fs.currentPath settings = .ok made) :
    ∃ place, fs.locate path = .ok place ∧
      (∀ file, settings.sourceFile = some file →
        (made.HasDocumentFrom fs place ↔
          fs.locate ((sourceFolder fs settings).join ⟨file⟩) = .ok place) ∧
        (made.ConstantsFrom fs place ↔
          fs.locate ((sourceFolder fs settings).join ⟨file⟩) = .ok place)) ∧
      (settings.sourceFile = none →
        (made.HasDocumentFrom fs place ↔ ∃ directory name, place = directory ++ [name] ∧
          fs.locate (sourceFolder fs settings) = .ok directory ∧
          fs.IsDocumentIn settings.maxDepth (sourceFolder fs settings) directory name) ∧
        (made.ConstantsFrom fs place ↔ ∃ directory name, place = directory ++ [name] ∧
          fs.locate (sourceFolder fs settings) = .ok directory ∧
          fs.IsReferenceIn settings.referenceLocale directory name) ∧
        ∀ directory, place = directory ++ [Settings.fileName.text] →
          (made.HasDocumentFrom fs place ↔
            fs.locate (sourceFolder fs settings) = .ok directory ∧
              fs.holdsDocument settings.maxDepth
                ((sourceFolder fs settings).join Settings.fileName) = true) ∧
          (made.ConstantsFrom fs place ↔
            fs.locate (sourceFolder fs settings) = .ok directory ∧
              (∀ wanted ∈ settings.referenceLocale, wanted = ".glotgenrc") ∧
              (settings.referenceLocale = none →
                ∀ other, fs.Offers directory other → ¬ other < Settings.fileName.text))) := by
  obtain ⟨place, content, hplace, hfile⟩ := exists_place_of_settingsFor hsettings
  refine ⟨place, hplace, fun file hone => Generation.comesFrom_file_iff hmade hone, fun hall => ?_⟩
  refine ⟨Generation.hasDocumentFrom_folder_iff hmade hnamed hall,
    Generation.constantsFrom_folder_iff hmade hnamed hall, ?_⟩
  rintro directory rfl
  exact ⟨hasDocumentFrom_settingsFile_iff hnamed hmade hall hfile,
    constantsFrom_settingsFile_iff hnamed hmade hall hfile⟩

/-- A settings file that names its own directory, beside a document. -/
def settingsProject : FileSystem where
  root := .directory
    [(".glotgenrc.json", .file "\x7b\"sourceDir\":\".\"\x7d".toUTF8),
      ("en.json", .file "\x7b\"a\":\"A\"\x7d".toUTF8)]
  workingDirectory := []

/-- The settings in the settings file of `settingsProject`. -/
def ownFolder : Settings :=
  { sourceDir := "." }

theorem settingsFor_settingsProject :
    settingsFor {} settingsProject = .ok (ownFolder, some ⟨"/.glotgenrc.json"⟩) := by
  decide +kernel

theorem selectDocuments_settingsProject {locale : Option String} {reference : Nat}
    (h : referenceIndex locale ([".glotgenrc.json", "en.json"].map fun name =>
      Path.join ⟨"/."⟩ ⟨name⟩) = .ok reference) :
    selectDocuments settingsProject settingsProject.currentPath
        { ownFolder with referenceLocale := locale } =
      Selection.addAll reference 0 {}
        (loadAll settingsProject ([".glotgenrc.json", "en.json"].map fun name =>
          Path.join ⟨"/."⟩ ⟨name⟩) ownFolder.maxDepth) := by
  apply Selection.selectDocuments_of_sorted _ _ _ _ _ _ h
  · change settingsProject.currentPath.join ⟨"."⟩ = ⟨"/."⟩
    decide +kernel
  · rfl
  · decide +kernel
  · decide +kernel
  · decide +kernel
  · simp

/-- A run whose settings file names its own directory takes its constants from the settings. -/
theorem exists_constantsFrom_settingsFile :
    ∃ settings path made place,
      CommandLine.read {} ["generate"] = .ok (some (.generate {})) ∧
      settingsFor {} settingsProject = .ok (settings, some path) ∧ settings.sourceFile = none ∧
      MessageCatalog.generate settingsProject settingsProject.currentPath settings = .ok made ∧
      settingsProject.locate path = .ok place ∧
      made.HasDocumentFrom settingsProject place ∧ made.ConstantsFrom settingsProject place := by
  have hread : CommandLine.read {} ["generate"] = .ok (some (.generate {})) := by
    decide +kernel
  have hplace : settingsProject.locate ⟨"/.glotgenrc.json"⟩ = .ok [".glotgenrc.json"] := by
    decide +kernel
  have hcheck : isOkAnd (MessageCatalog.generate settingsProject settingsProject.currentPath
        { ownFolder with referenceLocale := none }) (fun made =>
      made.HasDocumentFrom settingsProject [".glotgenrc.json"] ∧
        made.ConstantsFrom settingsProject [".glotgenrc.json"]) = true := by
    rw [MessageCatalog.generate, selectDocuments_settingsProject rfl]
    decide +kernel
  obtain ⟨made, hmade, hfacts⟩ := exists_of_isOkAnd hcheck
  exact ⟨_, _, made, _, hread, settingsFor_settingsProject, rfl, hmade, hplace,
    of_decide_eq_true hfacts⟩

/-- The settings file takes part where another document is the reference. -/
theorem settingsFile_comesFrom_settingsProject :
    ∃ made, MessageCatalog.generate settingsProject settingsProject.currentPath
        { ownFolder with referenceLocale := some "en" } = .ok made ∧
      made.HasDocumentFrom settingsProject [".glotgenrc.json"] ∧
      ¬ made.ConstantsFrom settingsProject [".glotgenrc.json"] := by
  have hsettings : settingsFor { referenceLocale := some "en" } settingsProject =
      .ok ({ ownFolder with referenceLocale := some "en" }, some ⟨"/.glotgenrc.json"⟩) := by
    decide +kernel
  have hplace : settingsProject.locate ⟨"/.glotgenrc.json"⟩ = .ok [".glotgenrc.json"] := by
    decide +kernel
  have hreference : referenceIndex (some "en") ([".glotgenrc.json", "en.json"].map fun name =>
      Path.join ⟨"/."⟩ ⟨name⟩) = .ok 1 := by
    decide +kernel
  have hok : (MessageCatalog.generate settingsProject settingsProject.currentPath
      { ownFolder with referenceLocale := some "en" }).isOk = true := by
    rw [MessageCatalog.generate, selectDocuments_settingsProject hreference]
    decide +kernel
  cases hmade : MessageCatalog.generate settingsProject settingsProject.currentPath
      { ownFolder with referenceLocale := some "en" } with
  | error e => simp [hmade, Except.isOk, Except.toBool] at hok
  | ok made =>
    obtain ⟨place, hfound, -, hfolder⟩ :=
      settingsFile_comesFrom_iff (by decide +kernel) hsettings hmade
    obtain rfl := Except.ok.inj (hplace.symm.trans hfound)
    obtain ⟨-, -, hnamed⟩ := hfolder rfl
    obtain ⟨hdocument, hconstants⟩ := hnamed [] rfl
    refine ⟨made, rfl, hdocument.mpr ⟨by decide +kernel, by decide +kernel⟩, fun hfrom => ?_⟩
    have hwanted := (hconstants.mp hfrom).2.1 "en" rfl
    exact absurd hwanted (by decide)

end Session

end MessageCatalog
