import Mathlib.Data.List.Nodup
import MessageCatalog.Generation.Build

/-!
# Where a generation comes from

A run that succeeds has chosen documents, found the one of the constants among them and passed the
checks of its entries. All that a generation holds is determined by these.

## Main definitions

* `Generation.ComesFrom` — a generation with the documents and the reference it was made from.
* `isOkAnd` — a result is there and passes a test, as it is checked on single projects.

## Main results

* `exists_comesFrom`: every generation comes from documents that were chosen
* `Selection.add_cases`: all that can become of one more file
* `Selection.addAll_induction`: what every file preserves holds of the documents chosen in the end
* `Selection.nodup_names_of_selectDocuments`: the documents of a run have distinct names
-/

namespace MessageCatalog

/-- The documents that a generation was made from, with the one that its constants come from. -/
structure Generation.ComesFrom (made : Generation) (fs : FileSystem) (root : Path)
    (settings : Settings) (selection : Selection) (reference : Document) : Prop where
  selected : selectDocuments fs root settings = .ok selection
  isReference : selection.referenceDocument? = some reference
  name_eq : made.reference = reference.name
  keys_eq : made.keys = ⟨(root.join ⟨settings.outputDir⟩).join ⟨settings.keysFile⟩,
    Constants.render (reference.flatten settings.skipBranchKeys)⟩
  messages_eq : made.messages = ⟨(root.join ⟨settings.outputDir⟩).join ⟨settings.messagesFile⟩,
    (Table.build selection.documents).render settings.runtimePath⟩
  count_eq : made.constantCount = (reference.flatten settings.skipBranchKeys).length
  documents_eq : made.documents = selection.chosen.map Chosen.summary
  checked : ∃ warnings,
    checkEntries settings.strict (reference.flatten settings.skipBranchKeys) = .ok warnings ∧
      made.warnings = selection.warnings ++ warnings

/-- **Every generation comes from documents that were chosen.** -/
theorem exists_comesFrom {fs : FileSystem} {root : Path} {settings : Settings} {made : Generation}
    (h : generate fs root settings = .ok made) :
    ∃ selection reference, made.ComesFrom fs root settings selection reference := by
  unfold generate at h
  cases hselect : selectDocuments fs root settings with
  | error e =>
    rw [hselect] at h
    cases h
  | ok selection =>
    rw [hselect] at h
    change selection.generation root settings = .ok made at h
    unfold Selection.generation at h
    cases href : selection.referenceDocument? with
    | none => simp [href] at h
    | some reference =>
      simp only [href] at h
      cases hcheck : checkEntries settings.strict
          (reference.flatten settings.skipBranchKeys) with
      | error e =>
        rw [hcheck] at h
        cases h
      | ok warnings =>
        rw [hcheck] at h
        cases h
        exact ⟨selection, reference, hselect, href, rfl, rfl, rfl, rfl, rfl, warnings, hcheck, rfl⟩

/-- The checks of a strict run let only entries pass that raise no warning. -/
theorem checkEntries_true_eq_ok {entries : List Entry} {warnings : List Warning}
    (h : checkEntries true entries = .ok warnings) :
    findCollisions entries = [] ∧ invalidEntries entries = [] := by
  simp only [checkEntries, Bool.true_and] at h
  split at h
  · cases h
  · split at h
    · cases h
    · next hcollisions hinvalid => exact ⟨by simpa using hcollisions, by simpa using hinvalid⟩

/-- What the checks tell about entries that they let pass. -/
theorem warnings_of_checkEntries {strict : Bool} {entries : List Entry} {warnings : List Warning}
    (h : checkEntries strict entries = .ok warnings) :
    warnings = (findCollisions entries).map .collision ++
      (invalidEntries entries).map .invalidSymbol := by
  simp only [checkEntries] at h
  split at h
  · cases h
  · split at h
    · cases h
    · cases h
      rfl

/-- Whether a result is there and passes a test. -/
def isOkAnd {ε α : Type} (result : Except ε α) (test : α → Bool) : Bool :=
  match result with
  | .ok value => test value
  | .error _ => false

theorem exists_of_isOkAnd {ε α : Type} {result : Except ε α} {test : α → Bool}
    (h : isOkAnd result test = true) : ∃ value, result = .ok value ∧ test value = true := by
  cases result with
  | ok value => exact ⟨value, rfl, h⟩
  | error => cases h

/-- A folder whose documents are listed in the order of their names has its files in that order. -/
theorem sourceFiles_of_sorted {fs : FileSystem} {folder : Path} {names : List String}
    (hexists : fs.exists? folder = true)
    (hnames : (fs.fileNames folder).filter isDocumentFile = names)
    (hsorted : names.Pairwise fun a b => a ≤ b) (hne : names ≠ []) :
    sourceFiles fs folder none = .ok (names.map fun name => folder.join ⟨name⟩) := by
  have hsort : (names.mergeSort fun a b => decide (a ≤ b)) = names :=
    List.mergeSort_of_pairwise (by simpa using hsorted)
  have hfiles : fs.documentFiles folder = names.map fun name => folder.join ⟨name⟩ := by
    rw [FileSystem.documentFiles, hnames, hsort]
  simp [sourceFiles, hexists, hfiles, hne]

namespace Selection

/-- **All that can become of one more file**: its document is taken in, or the file is left out
because the name of its document is taken or because it holds none. -/
theorem add_cases {selection next : Selection} {file : Loaded} {isReference : Bool}
    (h : selection.add file isReference = .ok next) :
    (∃ document, file.result = .ok document ∧ selection.holder? document.name = none ∧
      next = selection.choose file.path document isReference) ∨
    (∃ document holder, file.result = .ok document ∧
      selection.holder? document.name = some holder ∧
      next = selection.skip file.path (.nameTaken document.name holder)) ∨
    (∃ error, file.result = .error error ∧ isReference = false ∧
      next = selection.skip file.path (.notLoaded error)) := by
  unfold add at h
  split at h
  · next document hresult =>
    split at h
    · next holder hholder => exact .inr (.inl ⟨document, holder, hresult, hholder, by cases h; rfl⟩)
    · next hholder => exact .inl ⟨document, hresult, hholder, by cases h; rfl⟩
  · next error hresult =>
    split at h
    · cases h
    · next href => exact .inr (.inr ⟨error, hresult, by simpa using href, by cases h; rfl⟩)

/-- What every file preserves holds of the documents chosen in the end. -/
theorem addAll_induction {P : Selection → Prop}
    (step : ∀ {selection next file isReference}, selection.add file isReference = .ok next →
      P selection → P next)
    {reference index : Nat} {files : List Loaded} {selection last : Selection}
    (h : addAll reference index selection files = .ok last) (hstart : P selection) : P last := by
  induction files generalizing index selection with
  | nil =>
    cases h
    exact hstart
  | cons file rest ih =>
    rw [addAll] at h
    split at h
    · next next hadd => exact ih h (step hadd hstart)
    · cases h

theorem name_not_mem_of_holder?_eq_none {selection : Selection} {name : String}
    (h : selection.holder? name = none) : name ∉ selection.documents.map Document.name := by
  rw [holder?, Option.map_eq_none_iff, List.find?_eq_none] at h
  intro hmem
  obtain ⟨document, hdocument, rfl⟩ := List.mem_map.mp hmem
  obtain ⟨chosen, hchosen, rfl⟩ := List.mem_map.mp hdocument
  exact h chosen hchosen (by simp)

theorem nodup_names_add {selection next : Selection} {file : Loaded} {isReference : Bool}
    (h : selection.add file isReference = .ok next)
    (hnames : (selection.documents.map Document.name).Nodup) :
    (next.documents.map Document.name).Nodup := by
  rcases add_cases h with ⟨document, -, hholder, rfl⟩ | ⟨-, -, -, -, rfl⟩ | ⟨-, -, -, rfl⟩
  · have hfresh := name_not_mem_of_holder?_eq_none hholder
    simp only [documents, choose, List.map_append, List.map_cons, List.map_nil]
    rw [List.nodup_append]
    -- a document is taken in only if no other one holds its name
    refine ⟨hnames, by simp, ?_⟩
    rintro name hname other hother rfl
    exact hfresh (List.mem_singleton.mp hother ▸ hname)
  · exact hnames
  · exact hnames

/-- A run that has chosen its documents has found its files and the reference among them. -/
theorem selectDocuments_eq_ok {fs : FileSystem} {root : Path} {settings : Settings}
    {selection : Selection} (h : selectDocuments fs root settings = .ok selection) :
    ∃ paths reference,
      sourceFiles fs (root.join ⟨settings.sourceDir⟩) (settings.sourceFile.map Path.mk) =
        .ok paths ∧
      referenceIndex settings.referenceLocale paths = .ok reference ∧
      addAll reference 0 {} (loadAll fs paths settings.maxDepth) = .ok selection := by
  unfold selectDocuments at h
  cases hpaths : sourceFiles fs (root.join ⟨settings.sourceDir⟩)
      (settings.sourceFile.map Path.mk) with
  | error e =>
    rw [hpaths] at h
    cases h
  | ok paths =>
    cases hreference : referenceIndex settings.referenceLocale paths with
    | error e =>
      simp only [hpaths, bind, Except.bind, hreference] at h
      cases h
    | ok reference =>
      simp only [hpaths, bind, Except.bind, hreference] at h
      exact ⟨paths, reference, rfl, hreference, h⟩

/-- **The documents of a run have distinct names.** -/
theorem nodup_names_of_selectDocuments {fs : FileSystem} {root : Path} {settings : Settings}
    {selection : Selection} (h : selectDocuments fs root settings = .ok selection) :
    (selection.documents.map Document.name).Nodup := by
  obtain ⟨paths, reference, -, -, hadd⟩ := selectDocuments_eq_ok h
  exact addAll_induction (P := fun selection => (selection.documents.map Document.name).Nodup)
    nodup_names_add hadd (by simp [documents])

/-- A folder whose documents are listed in the order of their names is gone through in that order. -/
theorem selectDocuments_of_sorted {fs : FileSystem} {root folder : Path} {settings : Settings}
    {names : List String} {reference : Nat} (hfolder : root.join ⟨settings.sourceDir⟩ = folder)
    (hall : settings.sourceFile = none) (hexists : fs.exists? folder = true)
    (hnames : (fs.fileNames folder).filter isDocumentFile = names)
    (hsorted : names.Pairwise fun a b => a ≤ b) (hne : names ≠ [])
    (hreference : referenceIndex settings.referenceLocale
      (names.map fun name => folder.join ⟨name⟩) = .ok reference) :
    selectDocuments fs root settings =
      addAll reference 0 {} (loadAll fs (names.map fun name => folder.join ⟨name⟩)
        settings.maxDepth) := by
  have hfiles := sourceFiles_of_sorted hexists hnames hsorted hne
  simp only [selectDocuments, hfolder, hall, Option.map_none, hfiles, hreference, bind, Except.bind]

theorem mem_documents_of_referenceDocument? {selection : Selection} {reference : Document}
    (h : selection.referenceDocument? = some reference) : reference ∈ selection.documents :=
  List.mem_of_getElem? h

end Selection

end MessageCatalog
