import MessageCatalog.Proofs.Document.FileName
import MessageCatalog.Proofs.FileTree.Naming
import MessageCatalog.Proofs.Generation.Reference
import MessageCatalog.Proofs.Generation.Regeneration

/-!
# The files in a folder

A run without a named file goes through the files in a folder in the order of their names. What
comes before a file there is what has a smaller name, so which files take part and which one is the
reference can be said of names and places, without the list.

## Main definitions

* `IsAsked` — a document may be the reference.
* `FileSystem.documentNames` — the names of the files in a folder that a run goes through, in order.
* `FileSystem.Offers` — a directory has a file that a run goes through.
* `FileSystem.IsDocumentIn`, `FileSystem.IsReferenceIn` — a file takes part in a run over a folder,
  or is the one that is asked for.
* `Generation.HasDocumentFrom`, `Generation.ConstantsFrom` — a generation has a document that comes
  from a place, or its constants come from there.

## Main results

* `FileSystem.exists_split_documentFiles_iff`: before a file stand those of smaller names
* `FileSystem.mem_participants_documentFiles_iff`, `FileSystem.referencePath?_documentFiles_iff`:
  which files of a folder take part, and which one is asked for
* `Generation.comesFrom_file_iff`, `Generation.hasDocumentFrom_folder_iff`,
  `Generation.constantsFrom_folder_iff`: where the documents and the constants come from
-/

namespace MessageCatalog

/-! ## Lists in order -/

/-- Before an element of a sorted list stand those that are smaller, at its first occurrence. -/
theorem exists_split_iff {names : List String} (hsorted : names.Pairwise (· ≤ ·)) {name : String}
    {P : String → Prop} :
    (∃ before after, names = before ++ name :: after ∧ ∀ other ∈ before, P other) ↔
      name ∈ names ∧ ∀ other ∈ names, other < name → P other := by
  constructor
  · rintro ⟨before, after, rfl, hbefore⟩
    refine ⟨by simp, fun other hother hlt => ?_⟩
    rcases List.mem_append.mp hother with hold | hnew
    · exact hbefore other hold
    · -- nothing behind the element is smaller
      have hle : name ≤ other := by
        rcases List.mem_cons.mp hnew with rfl | hafter
        · exact String.le_refl _
        · exact List.rel_of_pairwise_cons (List.pairwise_append.mp hsorted).2.1 hafter
      exact absurd hlt (String.not_lt.mpr hle)
  · rintro ⟨hname, hsmaller⟩
    obtain ⟨before, after, rfl, hfirst⟩ := List.eq_append_cons_of_mem hname
    refine ⟨before, after, rfl, fun other hother => hsmaller other (by simp [hother]) ?_⟩
    have hle : other ≤ name :=
      (List.pairwise_append.mp hsorted).2.2 other hother name List.mem_cons_self
    have hne : other ≠ name := by
      rintro rfl
      exact hfirst hother
    exact String.not_le.mp fun hge => hne (String.le_antisymm hle hge)

/-- A file is asked for: no name is, or its document has the name. -/
def IsAsked (locale : Option String) (document : String) : Prop :=
  ∀ wanted ∈ locale, document = wanted

theorem referencePath?_eq_some_iff {locale : Option String} {paths : List Path} {path : Path} :
    referencePath? locale paths = some path ↔
      IsAsked locale path.documentName ∧
        ∃ before after, paths = before ++ path :: after ∧
          ∀ other ∈ before, ¬ IsAsked locale other.documentName := by
  cases locale with
  | none =>
    simp only [referencePath?, IsAsked, List.head?_eq_some_iff]
    constructor
    · rintro ⟨rest, rfl⟩
      exact ⟨by simp, [], rest, rfl, by simp⟩
    · rintro ⟨-, before, after, rfl, hbefore⟩
      cases before with
      | nil => exact ⟨after, rfl⟩
      | cons other rest => exact absurd (by simp) (hbefore other List.mem_cons_self)
  | some name =>
    rw [referencePath?, List.find?_eq_some_iff_append]
    simp [IsAsked]

/-! ## The files of a folder -/

/-- The document of an entry of a folder is named by the entry. -/
theorem Path.documentName_join {folder : Path} {name : String} (h : isEntryName name = true) :
    (folder.join ⟨name⟩).documentName = documentNameOf name := by
  rw [Path.documentName_eq, Path.fileName?_join h, Option.getD_some]

namespace FileSystem

variable {fs : FileSystem} {maxDepth : Nat} {locale : Option String} {folder : Path}
  {directory place : Place} {name : String}

/-- A file that holds a document has a path that can lead somewhere. -/
theorem flaw?_of_holdsDocument {path : Path} (h : fs.holdsDocument maxDepth path = true) :
    path.flaw? = none := by
  cases hflaw : path.flaw? with
  | none => rfl
  | some e =>
    rw [holdsDocument, Document.load, readText_of_flaw hflaw] at h
    cases h

/-- A file alone takes part if it holds a document. -/
theorem participants_singleton {path : Path} (h : fs.holdsDocument maxDepth path = true) :
    fs.participants maxDepth [path] = [path] := by
  have htakes : fs.TakesPart maxDepth [] path := ⟨h, by simp⟩
  exact participants_concat_of_takesPart htakes

/-- The names of the files in a folder that are taken to hold documents, in order. -/
def documentNames (fs : FileSystem) (folder : Path) : List String :=
  ((fs.fileNames folder).filter isDocumentFile).mergeSort fun a b => decide (a ≤ b)

theorem documentFiles_eq_map (fs : FileSystem) (folder : Path) :
    fs.documentFiles folder = (fs.documentNames folder).map fun name => folder.join ⟨name⟩ :=
  rfl

theorem pairwise_documentNames (fs : FileSystem) (folder : Path) :
    (fs.documentNames folder).Pairwise (· ≤ ·) := by
  have htrans : ∀ a b c : String, decide (a ≤ b) = true → decide (b ≤ c) = true →
      decide (a ≤ c) = true := fun _ _ _ hab hbc =>
    decide_eq_true (String.le_trans (of_decide_eq_true hab) (of_decide_eq_true hbc))
  have htotal : ∀ a b : String, (decide (a ≤ b) || decide (b ≤ a)) = true := fun a b => by
    simpa using String.le_total a b
  exact (List.pairwise_mergeSort htrans htotal _).imp of_decide_eq_true

/-- **Before a file of a folder stand those of smaller names.** -/
theorem exists_split_documentFiles_iff {path : Path} {Q : Path → Prop} :
    (∃ before after, fs.documentFiles folder = before ++ path :: after ∧
        ∀ other ∈ before, Q other) ↔
      ∃ name ∈ fs.documentNames folder, folder.join ⟨name⟩ = path ∧
        ∀ other ∈ fs.documentNames folder, other < name → Q (folder.join ⟨other⟩) := by
  have hsorted := fs.pairwise_documentNames folder
  rw [documentFiles_eq_map]
  constructor
  · rintro ⟨before, after, hpaths, hbefore⟩
    obtain ⟨names, rest, hnames, rfl, hrest⟩ := List.map_eq_append_iff.mp hpaths
    obtain ⟨name, others, rfl, rfl, -⟩ := List.map_eq_cons_iff.mp hrest
    obtain ⟨hname, hsmaller⟩ := (exists_split_iff hsorted).mp
      ⟨names, others, hnames, fun other hother => hbefore _ (List.mem_map_of_mem hother)⟩
    exact ⟨name, hname, rfl, hsmaller⟩
  · rintro ⟨name, hname, rfl, hsmaller⟩
    obtain ⟨before, after, hnames, hbefore⟩ := (exists_split_iff hsorted).mpr ⟨hname, hsmaller⟩
    refine ⟨before.map _, after.map _, by rw [hnames, List.map_append, List.map_cons], ?_⟩
    rintro other hother
    obtain ⟨earlier, hearlier, rfl⟩ := List.mem_map.mp hother
    exact hbefore earlier hearlier

/-- A directory has a file that a run goes through: its name is that of a document. -/
structure Offers (fs : FileSystem) (directory : Place) (name : String) : Prop where
  isFile : ∃ content, fs.view (directory ++ [name]) = some (.file content)
  isDocumentFile : isDocumentFile name = true

/-- A file takes part in a run over the files of a directory: it holds a document, and none of a
smaller name that holds one has its document name. -/
structure IsDocumentIn (fs : FileSystem) (maxDepth : Nat) (folder : Path) (directory : Place)
    (name : String) : Prop where
  offered : fs.Offers directory name
  holds : fs.holdsDocument maxDepth (folder.join ⟨name⟩) = true
  first : ∀ other, fs.Offers directory other → other < name →
    fs.holdsDocument maxDepth (folder.join ⟨other⟩) = true →
      documentNameOf other ≠ documentNameOf name

/-- A file is the one that is asked for in a run over the files of a directory: the one of the
smallest name, or of the smallest that belongs to the document that is asked for. -/
structure IsReferenceIn (fs : FileSystem) (locale : Option String) (directory : Place)
    (name : String) : Prop where
  offered : fs.Offers directory name
  asked : IsAsked locale (documentNameOf name)
  first : ∀ other, fs.Offers directory other → other < name →
    ¬ IsAsked locale (documentNameOf other)

section WellNamed

variable (hnamed : fs.root.isWellNamed = true) (hfolder : fs.locate folder = .ok directory)

include hnamed

theorem Offers.isEntryName (h : fs.Offers directory name) : isEntryName name = true := by
  obtain ⟨content, hcontent⟩ := h.isFile
  exact FileNode.isEntryName_of_isWellNamed hnamed (by rw [← view, hcontent]; simp)

theorem Offers.documentName_join (h : fs.Offers directory name) (folder : Path) :
    (folder.join ⟨name⟩).documentName = documentNameOf name :=
  Path.documentName_join (h.isEntryName hnamed)

include hfolder

theorem mem_documentNames_iff : name ∈ fs.documentNames folder ↔ fs.Offers directory name := by
  rw [documentNames, List.mem_mergeSort, List.mem_filter, fileNames_eq hfolder,
    FileNode.mem_filesIn_iff hnamed]
  exact ⟨fun h => ⟨h.1, h.2⟩, fun h => ⟨h.isFile, h.isDocumentFile⟩⟩

/-- The path of a file in a folder leads to it, unless it leads nowhere. -/
theorem Offers.locate_join_iff (h : fs.Offers directory name) :
    fs.locate (folder.join ⟨name⟩) = .ok place ↔
      (folder.join ⟨name⟩).flaw? = none ∧ place = directory ++ [name] := by
  obtain ⟨content, hcontent⟩ := h.isFile
  have hlocate : (folder.join ⟨name⟩).flaw? = none →
      fs.locate (folder.join ⟨name⟩) = .ok (directory ++ [name]) :=
    locate_entry hfolder (h.isEntryName hnamed) hcontent (by simp)
  constructor
  · intro hplace
    have hflaw := (locate_eq_ok_iff.mp hplace).1
    exact ⟨hflaw, Except.ok.inj (hplace.symm.trans (hlocate hflaw))⟩
  · rintro ⟨hflaw, rfl⟩
    exact hlocate hflaw

/-- Before a file that a directory has stand those of smaller names that it has. -/
theorem exists_split_offers_iff {path : Path} {Q : Path → Prop} :
    (∃ before after, fs.documentFiles folder = before ++ path :: after ∧
        ∀ other ∈ before, Q other) ↔
      ∃ name, fs.Offers directory name ∧ folder.join ⟨name⟩ = path ∧
        ∀ other, fs.Offers directory other → other < name → Q (folder.join ⟨other⟩) := by
  simp only [exists_split_documentFiles_iff, mem_documentNames_iff hnamed hfolder]

/-- **Which files of a folder take part.** -/
theorem mem_participants_documentFiles_iff {path : Path} :
    path ∈ fs.participants maxDepth (fs.documentFiles folder) ↔
      ∃ name, folder.join ⟨name⟩ = path ∧ fs.IsDocumentIn maxDepth folder directory name := by
  rw [mem_participants_iff]
  constructor
  · rintro ⟨earlier, later, hsplit, hholds, hearlier⟩
    obtain ⟨name, hoffered, rfl, hsmaller⟩ :=
      (exists_split_offers_iff hnamed hfolder).mp ⟨earlier, later, hsplit, hearlier⟩
    refine ⟨name, rfl, hoffered, hholds, fun other hother hlt hothers => ?_⟩
    rw [← hother.documentName_join hnamed, ← hoffered.documentName_join hnamed]
    exact hsmaller other hother hlt hothers
  · rintro ⟨name, rfl, hoffered, hholds, hfirst⟩
    have hsmaller : ∀ other, fs.Offers directory other → other < name →
        fs.holdsDocument maxDepth (folder.join ⟨other⟩) = true →
          (folder.join ⟨other⟩).documentName ≠ (folder.join ⟨name⟩).documentName := by
      intro other hother hlt hothers
      rw [hother.documentName_join hnamed, hoffered.documentName_join hnamed]
      exact hfirst other hother hlt hothers
    obtain ⟨before, after, hsplit, hbefore⟩ :=
      (exists_split_offers_iff hnamed hfolder
        (Q := fun other => fs.holdsDocument maxDepth other = true →
          other.documentName ≠ (folder.join ⟨name⟩).documentName)).mpr
        ⟨name, hoffered, rfl, hsmaller⟩
    exact ⟨before, after, hsplit, hholds, hbefore⟩

/-- **Which file of a folder is asked for.** -/
theorem referencePath?_documentFiles_iff {path : Path} :
    referencePath? locale (fs.documentFiles folder) = some path ↔
      ∃ name, folder.join ⟨name⟩ = path ∧ fs.IsReferenceIn locale directory name := by
  rw [referencePath?_eq_some_iff, exists_split_offers_iff hnamed hfolder]
  constructor
  · rintro ⟨hasked, name, hoffered, rfl, hsmaller⟩
    rw [hoffered.documentName_join hnamed] at hasked
    refine ⟨name, rfl, hoffered, hasked, fun other hother hlt => ?_⟩
    rw [← hother.documentName_join hnamed]
    exact hsmaller other hother hlt
  · rintro ⟨name, rfl, hoffered, hasked, hfirst⟩
    rw [hoffered.documentName_join hnamed]
    refine ⟨hasked, name, hoffered, rfl, fun other hother hlt => ?_⟩
    rw [hother.documentName_join hnamed]
    exact hfirst other hother hlt

end WellNamed

end FileSystem

/-! ## The files of a generation -/

namespace Generation

/-- A document of a generation comes from the file at a place. -/
def HasDocumentFrom (made : Generation) (fs : FileSystem) (place : Place) : Prop :=
  ∃ summary ∈ made.documents, fs.locate summary.path = .ok place

/-- The constants of a generation come from the file at a place. -/
def ConstantsFrom (made : Generation) (fs : FileSystem) (place : Place) : Prop :=
  ∃ summary ∈ made.documents, summary.name = made.reference ∧ fs.locate summary.path = .ok place

instance (made : Generation) (fs : FileSystem) (place : Place) :
    Decidable (made.HasDocumentFrom fs place) :=
  inferInstanceAs (Decidable (∃ summary ∈ _, _))

instance (made : Generation) (fs : FileSystem) (place : Place) :
    Decidable (made.ConstantsFrom fs place) :=
  inferInstanceAs (Decidable (∃ summary ∈ _, _))

variable {fs : FileSystem} {root : Path} {settings : Settings} {made : Generation}

/-- A run over a folder goes through the files that are listed in a directory. -/
theorem ComesFrom.exists_directory {selection : Selection} {reference : Document}
    (h : made.ComesFrom fs root settings selection reference) (hall : settings.sourceFile = none) :
    ∃ directory, fs.locate (root.join ⟨settings.sourceDir⟩) = .ok directory ∧
      sourceFiles fs (root.join ⟨settings.sourceDir⟩) (settings.sourceFile.map Path.mk) =
        .ok (fs.documentFiles (root.join ⟨settings.sourceDir⟩)) := by
  obtain ⟨paths, -, hpaths, -⟩ := Selection.selectDocuments_eq_ok h.selected
  have hlisted := hpaths
  rw [hall] at hlisted
  obtain ⟨⟨directory, kind, hdirectory, -⟩, hfiles⟩ := sourceFiles_eq_ok_iff.mp hlisted
  rcases hfiles with ⟨file, content, hfile, -⟩ | ⟨-, rfl, -⟩
  · cases hfile
  · exact ⟨directory, hdirectory, hpaths⟩

variable {paths : List Path} {place : Place} (h : generate fs root settings = .ok made)
  (hpaths : sourceFiles fs (root.join ⟨settings.sourceDir⟩) (settings.sourceFile.map Path.mk) =
    .ok paths)

include h hpaths

/-- **The documents come from the files that take part.** -/
theorem hasDocumentFrom_iff :
    made.HasDocumentFrom fs place ↔
      ∃ path ∈ fs.participants settings.maxDepth paths, fs.locate path = .ok place := by
  obtain ⟨selection, reference, hfrom⟩ := exists_comesFrom h
  rw [HasDocumentFrom, ← hfrom.summaryPaths_eq hpaths]
  simp

/-- **The constants come from the file that is asked for.** -/
theorem constantsFrom_iff :
    made.ConstantsFrom fs place ↔
      ∃ path, referencePath? settings.referenceLocale paths = some path ∧
        fs.locate path = .ok place := by
  obtain ⟨selection, reference, hfrom⟩ := exists_comesFrom h
  obtain ⟨path, before, after, document, hpath, hsplit, hfirst, hload, hreference⟩ :=
    Selection.exists_first_of_selectDocuments hfrom.selected hpaths
  obtain rfl := Option.some.inj (hreference.symm.trans hfrom.isReference)
  -- the first file of its name takes part, so there is a document that comes from it
  have htakes : path ∈ fs.participants settings.maxDepth paths :=
    FileSystem.mem_participants_iff.mpr ⟨before, after, hsplit,
      FileSystem.holdsDocument_of_load hload,
      fun other hother _ => hfirst other hother⟩
  rw [← hfrom.summaryPaths_eq hpaths] at htakes
  obtain ⟨summary, hsummary, rfl⟩ := List.mem_map.mp htakes
  have hname : summary.name = made.reference := by
    obtain ⟨other, -, hother, hname⟩ := hfrom.exists_document hsummary
    obtain rfl := Except.ok.inj (hother.symm.trans hload)
    exact hname.symm.trans hfrom.name_eq.symm
  rw [hpath]
  constructor
  · rintro ⟨other, hother, hsame, hplace⟩
    obtain rfl := List.inj_on_of_nodup_map hfrom.nodup_summaryNames hother hsummary
      (hsame.trans hname.symm)
    exact ⟨_, rfl, hplace⟩
  · rintro ⟨path, heq, hplace⟩
    obtain rfl := Option.some.inj heq
    exact ⟨summary, hsummary, hname, hplace⟩

/-- A file is asked for, and it holds a document. -/
theorem exists_referencePath :
    ∃ path ∈ paths, referencePath? settings.referenceLocale paths = some path ∧
      fs.holdsDocument settings.maxDepth path = true := by
  obtain ⟨selection, reference, hfrom⟩ := exists_comesFrom h
  obtain ⟨path, before, after, document, hpath, hsplit, -, hload, -⟩ :=
    Selection.exists_first_of_selectDocuments hfrom.selected hpaths
  exact ⟨path, by simp [hsplit], hpath, FileSystem.holdsDocument_of_load hload⟩

omit hpaths

/-- **A run over one file**: its document and its constants come from there. -/
theorem comesFrom_file_iff {file : String} (hfile : settings.sourceFile = some file) :
    (made.HasDocumentFrom fs place ↔
      fs.locate ((root.join ⟨settings.sourceDir⟩).join ⟨file⟩) = .ok place) ∧
    (made.ConstantsFrom fs place ↔
      fs.locate ((root.join ⟨settings.sourceDir⟩).join ⟨file⟩) = .ok place) := by
  obtain ⟨selection, reference, hfrom⟩ := exists_comesFrom h
  obtain ⟨paths, -, hpaths, -⟩ := Selection.selectDocuments_eq_ok hfrom.selected
  obtain rfl : paths = [(root.join ⟨settings.sourceDir⟩).join ⟨file⟩] := by
    rw [hfile] at hpaths
    obtain ⟨-, ⟨other, content, hother, -, rfl⟩ | ⟨hnone, -⟩⟩ := sourceFiles_eq_ok_iff.mp hpaths
    · rw [← Option.some.inj hother]
    · cases hnone
  obtain ⟨path, hmem, hpath, hholds⟩ := exists_referencePath h hpaths
  obtain rfl := List.mem_singleton.mp hmem
  rw [hasDocumentFrom_iff h hpaths, constantsFrom_iff h hpaths,
    FileSystem.participants_singleton hholds, hpath]
  simp

section Folder

variable (hnamed : fs.root.isWellNamed = true) (hall : settings.sourceFile = none)

include hall in
theorem exists_directory :
    ∃ directory, fs.locate (root.join ⟨settings.sourceDir⟩) = .ok directory ∧
      sourceFiles fs (root.join ⟨settings.sourceDir⟩) (settings.sourceFile.map Path.mk) =
        .ok (fs.documentFiles (root.join ⟨settings.sourceDir⟩)) := by
  obtain ⟨selection, reference, hfrom⟩ := exists_comesFrom h
  exact hfrom.exists_directory hall

include hnamed hall

/-- **A run over a folder**: whose documents it has. -/
theorem hasDocumentFrom_folder_iff :
    made.HasDocumentFrom fs place ↔ ∃ directory name, place = directory ++ [name] ∧
      fs.locate (root.join ⟨settings.sourceDir⟩) = .ok directory ∧
      fs.IsDocumentIn settings.maxDepth (root.join ⟨settings.sourceDir⟩) directory name := by
  obtain ⟨directory, hfolder, hpaths⟩ := exists_directory h hall
  rw [hasDocumentFrom_iff h hpaths]
  simp only [FileSystem.mem_participants_documentFiles_iff hnamed hfolder]
  constructor
  · rintro ⟨path, ⟨name, rfl, hdocument⟩, hplace⟩
    obtain ⟨-, rfl⟩ := (hdocument.offered.locate_join_iff hnamed hfolder).mp hplace
    exact ⟨directory, name, rfl, hfolder, hdocument⟩
  · rintro ⟨other, name, rfl, hother, hdocument⟩
    obtain rfl := Except.ok.inj (hother.symm.trans hfolder)
    exact ⟨_, ⟨name, rfl, hdocument⟩, (hdocument.offered.locate_join_iff hnamed hfolder).mpr
      ⟨FileSystem.flaw?_of_holdsDocument hdocument.holds, rfl⟩⟩

/-- **A run over a folder**: where its constants come from. -/
theorem constantsFrom_folder_iff :
    made.ConstantsFrom fs place ↔ ∃ directory name, place = directory ++ [name] ∧
      fs.locate (root.join ⟨settings.sourceDir⟩) = .ok directory ∧
      fs.IsReferenceIn settings.referenceLocale directory name := by
  obtain ⟨directory, hfolder, hpaths⟩ := exists_directory h hall
  rw [constantsFrom_iff h hpaths]
  constructor
  · rintro ⟨path, hpath, hplace⟩
    obtain ⟨name, rfl, hreference⟩ :=
      (FileSystem.referencePath?_documentFiles_iff hnamed hfolder).mp hpath
    obtain ⟨-, rfl⟩ := (hreference.offered.locate_join_iff hnamed hfolder).mp hplace
    exact ⟨directory, name, rfl, hfolder, hreference⟩
  · rintro ⟨other, name, rfl, hother, hreference⟩
    obtain rfl := Except.ok.inj (hother.symm.trans hfolder)
    have hpath := (FileSystem.referencePath?_documentFiles_iff hnamed hfolder).mpr
      ⟨name, rfl, hreference⟩
    -- the run has made a generation, so the file that is asked for could be read
    obtain ⟨path, -, hasked, hholds⟩ := exists_referencePath h hpaths
    obtain rfl := Option.some.inj (hpath.symm.trans hasked)
    exact ⟨_, hpath, (hreference.offered.locate_join_iff hnamed hfolder).mpr
      ⟨FileSystem.flaw?_of_holdsDocument hholds, rfl⟩⟩

end Folder

end Generation

end MessageCatalog
