import Mathlib.Data.List.Sort
import MessageCatalog.Proofs.Generation.Listed
import MessageCatalog.Proofs.Text.ByteOrder

/-!
# The listing of a folder

A run without a named file takes the files directly inside a folder that have the names of
documents. Which files these are and the order they come in are said by the places directly below
the folder: the order in which its entries were made, and whatever is further down, have no say.

## Main definitions

* `FileSystem.IsDocumentListing` — names of the files in a directory that a run goes through, each
  once and in the order of their bytes.
* `FileSystem.OffersAlike` — a folder leads to the same files for a run in two file systems, or to
  nothing in both.

## Main results

* `FileSystem.isDocumentListing_documentNames`, `FileSystem.IsDocumentListing.unique`: a directory
  has exactly one such listing
* `FileSystem.offersAlike_of_view_eq`: the order of the entries does not matter
* `sourceFiles_folder`: what a run over a folder goes through, and when there is nothing
-/

namespace MessageCatalog

namespace FileSystem

variable {fs fs' : FileSystem} {folder : Path} {place place' : Place} {names names' : List String}

/-- The names of the files in a directory that a run goes through, each once and in the order of
their bytes. -/
structure IsDocumentListing (fs : FileSystem) (place : Place) (names : List String) : Prop where
  mem_iff : ∀ name, name ∈ names ↔ fs.Offers place name
  ordered : names.Pairwise fun a b => Text.bytes a < Text.bytes b

/-- There is only one list of the same files in their order. -/
theorem IsDocumentListing.unique (h : fs.IsDocumentListing place names)
    (h' : fs'.IsDocumentListing place' names')
    (hsame : ∀ name, fs.Offers place name ↔ fs'.Offers place' name) : names = names' := by
  -- bytes are in order exactly if texts are, and that order is strict
  have hordered : names.Pairwise (· < ·) := h.ordered.imp Text.lt_iff_bytes_lt.mpr
  have hordered' : names'.Pairwise (· < ·) := h'.ordered.imp Text.lt_iff_bytes_lt.mpr
  apply hordered.eq_of_mem_iff hordered'
  intro name
  rw [h.mem_iff, hsame, ← h'.mem_iff]

/-! ## The listing that is made -/

section WellNamed

variable (hnamed : fs.root.isWellNamed = true) (hfolder : fs.locate folder = .ok place)

include hnamed hfolder

theorem nodup_documentNames : (fs.documentNames folder).Nodup := by
  rw [documentNames, List.nodup_mergeSort, fileNames_eq hfolder, FileNode.filesIn]
  -- the files are some of the entries, which have names of their own
  have hnames : (((fs.root.listing place).filter fun entry => entry.2.isFile).map Prod.fst).Nodup :=
    (FileNode.nodup_names_listing hnamed place).sublist (List.filter_sublist.map Prod.fst)
  exact hnames.filter isDocumentFile

/-- **The listing that is made is the one of the files there.** -/
theorem isDocumentListing_documentNames :
    fs.IsDocumentListing place (fs.documentNames folder) where
  mem_iff := fun _ => mem_documentNames_iff hnamed hfolder
  ordered := by
    -- the names are sorted, and none of them comes twice
    have hstrict := (fs.pairwise_documentNames folder).and (nodup_documentNames hnamed hfolder)
    apply hstrict.imp
    rintro name other ⟨hle, hne⟩
    apply Text.lt_iff_bytes_lt.mp
    exact String.not_le.mp fun hge => hne (String.le_antisymm hle hge)

end WellNamed

/-- What is no directory has no files. -/
theorem not_offers_of_ne_directory {name : String} (h : fs.view place ≠ some .directory) :
    ¬ fs.Offers place name := by
  rintro ⟨⟨content, hcontent⟩, -⟩
  -- nothing is below anything but a directory
  rw [view, FileNode.kindAt_append_of_ne_directory h (by simp)] at hcontent
  cases hcontent

/-! ## What the listing depends on -/

/-- A folder leads to the same files for a run in two file systems, or to nothing in both. -/
structure OffersAlike (fs fs' : FileSystem) (folder : Path) : Prop where
  isThere : fs.exists? folder = fs'.exists? folder
  offers : ∀ {place place'}, fs.locate folder = .ok place → fs'.locate folder = .ok place' →
    ∀ name, fs.Offers place name ↔ fs'.Offers place' name

theorem locate_eq_ok_iff_of_view_eq (hview : fs'.view = fs.view)
    (hworking : fs'.workingDirectory = fs.workingDirectory) :
    fs'.locate folder = .ok place ↔ fs.locate folder = .ok place := by
  rw [locate_eq_ok_iff, locate_eq_ok_iff, hview, start, start, hworking]

/-- **The order in which entries were made does not matter**: the view of a tree does not tell
it. -/
theorem offersAlike_of_view_eq (hview : fs'.view = fs.view)
    (hworking : fs'.workingDirectory = fs.workingDirectory) : fs.OffersAlike fs' folder where
  isThere := by
    rw [Bool.eq_iff_iff, exists?_iff_exists_place, exists?_iff_exists_place, hview]
    simp only [locate_eq_ok_iff_of_view_eq hview hworking]
  offers := by
    intro place place' hplace hplace' name
    rw [locate_eq_ok_iff_of_view_eq hview hworking, hplace] at hplace'
    obtain rfl := Except.ok.inj hplace'
    constructor
    · rintro ⟨hfile, hdocument⟩
      exact ⟨hview ▸ hfile, hdocument⟩
    · rintro ⟨hfile, hdocument⟩
      exact ⟨hview ▸ hfile, hdocument⟩

end FileSystem

/-! ## The files of a run over a folder -/

variable {fs fs' : FileSystem} {folder : Path} {place : Place} {names : List String}

/-- A folder is missing if its path leads to no node. -/
theorem sourceFiles_eq_folderMissing_iff :
    sourceFiles fs folder none = .error (.folderMissing folder) ↔ fs.exists? folder = false := by
  rw [sourceFiles]
  cases fs.exists? folder with
  | false => simp
  | true =>
    by_cases hempty : (fs.documentFiles folder).isEmpty = true
    · simp [hempty]
    · simp [hempty]

/-- A run over a folder that is there goes through the listing of its directory. -/
theorem sourceFiles_of_isDocumentListing (hnamed : fs.root.isWellNamed = true)
    (hexists : fs.exists? folder = true) (hfolder : fs.locate folder = .ok place)
    (h : fs.IsDocumentListing place names) :
    sourceFiles fs folder none =
      if names = [] then .error (.noDocuments folder)
      else .ok (names.map fun name => folder.join ⟨name⟩) := by
  obtain rfl : names = fs.documentNames folder :=
    h.unique (FileSystem.isDocumentListing_documentNames hnamed hfolder) fun _ => Iff.rfl
  rw [sourceFiles, hexists, FileSystem.documentFiles_eq_map]
  simp

theorem sourceFiles_eq_of_offersAlike (hnamed : fs.root.isWellNamed = true)
    (hnamed' : fs'.root.isWellNamed = true) (h : fs.OffersAlike fs' folder) :
    sourceFiles fs' folder none = sourceFiles fs folder none := by
  cases hexists : fs.exists? folder with
  | false =>
    rw [sourceFiles_eq_folderMissing_iff.mpr hexists,
      sourceFiles_eq_folderMissing_iff.mpr (h.isThere ▸ hexists)]
  | true =>
    -- both folders lead to a place, and the listings there have the same names
    have hexists' : fs'.exists? folder = true := h.isThere ▸ hexists
    obtain ⟨place, -, hplace, -⟩ := FileSystem.exists?_iff_exists_place.mp hexists
    obtain ⟨place', -, hplace', -⟩ := FileSystem.exists?_iff_exists_place.mp hexists'
    have hlisting := FileSystem.isDocumentListing_documentNames hnamed hplace
    have hlisting' := FileSystem.isDocumentListing_documentNames hnamed' hplace'
    rw [sourceFiles_of_isDocumentListing hnamed hexists hplace hlisting,
      sourceFiles_of_isDocumentListing hnamed' hexists' hplace' hlisting',
      hlisting.unique hlisting' (h.offers hplace hplace')]

/-- **The files of a run over a folder.** The folder is missing exactly if its path leads to no
node. If it leads to one, the run goes through the files directly inside that have the names of
documents, each once and in the order of the bytes of the names, and it fails if there are none.
This depends on nothing else: not on the order of entries, and not on what is further down. -/
theorem sourceFiles_folder (hnamed : fs.root.isWellNamed = true) (folder : Path) :
    (sourceFiles fs folder none = .error (.folderMissing folder) ↔
      ¬ ∃ place kind, fs.locate folder = .ok place ∧ fs.view place = some kind) ∧
    (∀ place kind, fs.locate folder = .ok place → fs.view place = some kind →
      ((∃ name, fs.Offers place name) → ∃ names, fs.IsDocumentListing place names ∧
        sourceFiles fs folder none = .ok (names.map fun name => folder.join ⟨name⟩)) ∧
      (kind ≠ .directory ∨ (∀ name, ¬ fs.Offers place name) →
        sourceFiles fs folder none = .error (.noDocuments folder))) ∧
    (∀ fs' : FileSystem, fs'.root.isWellNamed = true →
      fs.OffersAlike fs' folder ∨
          fs'.view = fs.view ∧ fs'.workingDirectory = fs.workingDirectory →
        sourceFiles fs' folder none = sourceFiles fs folder none) := by
  refine ⟨?_, ?_, ?_⟩
  · rw [sourceFiles_eq_folderMissing_iff, ← FileSystem.exists?_iff_exists_place]
    simp
  · intro place kind hplace hkind
    -- the run goes through the one listing of the directory, which is empty or not
    have hexists : fs.exists? folder = true :=
      FileSystem.exists?_iff_exists_place.mpr ⟨place, kind, hplace, hkind⟩
    have hlisting := FileSystem.isDocumentListing_documentNames hnamed hplace
    have hfiles := sourceFiles_of_isDocumentListing hnamed hexists hplace hlisting
    constructor
    · rintro ⟨name, hname⟩
      have hne : fs.documentNames folder ≠ [] :=
        List.ne_nil_of_mem ((hlisting.mem_iff name).mpr hname)
      exact ⟨_, hlisting, by rw [hfiles, if_neg hne]⟩
    · intro hnone
      have hoffers : ∀ name, ¬ fs.Offers place name := by
        rcases hnone with hne | hoffers
        · intro name
          apply FileSystem.not_offers_of_ne_directory
          simpa [hkind] using hne
        · exact hoffers
      have hnil : fs.documentNames folder = [] := by
        apply List.eq_nil_iff_forall_not_mem.mpr
        intro name hname
        exact hoffers name ((hlisting.mem_iff name).mp hname)
      rw [hfiles, if_pos hnil]
  · intro fs' hnamed' hsame
    have halike : fs.OffersAlike fs' folder := by
      rcases hsame with halike | ⟨hview, hworking⟩
      · exact halike
      · exact FileSystem.offersAlike_of_view_eq hview hworking
    exact sourceFiles_eq_of_offersAlike hnamed hnamed' halike

/-- A folder with two files of documents, a link to one, a directory that is named like one and has
a file further down, and some other file. -/
def layeredProject : FileSystem where
  root := .directory [("messages", .directory [("ru.json", .file .empty),
    ("xx.json", .link "ru.json"), ("de.json", .directory [("deep.json", .file .empty)]),
    ("notes.txt", .file .empty), ("en.json.bak", .file .empty)])]
  workingDirectory := []

theorem isDocumentListing_layeredProject :
    layeredProject.IsDocumentListing ["messages"] ["en.json.bak", "ru.json"] where
  mem_iff := by
    have hfiles : layeredProject.root.filesIn ["messages"] =
        ["ru.json", "notes.txt", "en.json.bak"] := rfl
    intro name
    constructor
    · intro hname
      rcases List.mem_pair.mp hname with rfl | rfl
      · exact ⟨⟨.empty, rfl⟩, by decide⟩
      · exact ⟨⟨.empty, rfl⟩, by decide⟩
    · rintro ⟨⟨content, hcontent⟩, hdocument⟩
      have hmem := FileNode.mem_filesIn_of_kindAt hcontent
      rw [hfiles, List.mem_cons, List.mem_pair] at hmem
      rcases hmem with rfl | rfl | rfl
      · simp
      · exact absurd hdocument (by decide)
      · simp
  ordered := by decide +kernel

/-- The two files are gone through in order, a file has none in it, and a folder may be missing. -/
theorem sourceFiles_layeredProject :
    sourceFiles layeredProject ⟨"messages"⟩ none =
        .ok [⟨"messages/en.json.bak"⟩, ⟨"messages/ru.json"⟩] ∧
      sourceFiles layeredProject ⟨"messages/ru.json"⟩ none =
        .error (.noDocuments ⟨"messages/ru.json"⟩) ∧
      sourceFiles layeredProject ⟨"absent"⟩ none = .error (.folderMissing ⟨"absent"⟩) := by
  have hnamed : layeredProject.root.isWellNamed = true := by decide
  refine ⟨?_, ?_, ?_⟩
  · obtain ⟨-, hthere, -⟩ := sourceFiles_folder hnamed ⟨"messages"⟩
    obtain ⟨hsome, -⟩ := hthere ["messages"] .directory (by decide) rfl
    obtain ⟨names, hlisting, hfiles⟩ :=
      hsome ⟨"ru.json", (isDocumentListing_layeredProject.mem_iff _).mp (by simp)⟩
    rw [hfiles, hlisting.unique isDocumentListing_layeredProject fun _ => Iff.rfl]
    decide
  · obtain ⟨-, hthere, -⟩ := sourceFiles_folder hnamed ⟨"messages/ru.json"⟩
    obtain ⟨-, hnone⟩ := hthere ["messages", "ru.json"] (.file .empty) (by decide) rfl
    exact hnone (.inl (by simp))
  · obtain ⟨hmissing, -, -⟩ := sourceFiles_folder hnamed ⟨"absent"⟩
    apply hmissing.mpr
    rintro ⟨place, kind, hplace, -⟩
    have habsent : layeredProject.locate ⟨"absent"⟩ = .error .notFound := by decide
    rw [habsent] at hplace
    cases hplace

end MessageCatalog
