import MessageCatalog.Proofs.Document.FileName
import MessageCatalog.Proofs.Generation.FolderListing
import MessageCatalog.Proofs.Generation.Independence

/-!
# Files of one document

A folder has two files at most that belong to one document: the file of that very name and the one
with `.json` behind it. A run comes to the first one first, so the second one is left out if both
hold a document. No other file has a say in the locale of that name, and least of all a copy with
something behind the ending. Where the names of files are no texts, there can be more than two.

## Main definitions

* `ListsNamesakes` — among some files of a folder, those of one document are two at most, in order.
* `FileSystem.AlikeBut` — two file systems have the same in a folder, but for one name.

## Main results

* `listsNamesakes_of_sourceFiles`: the files of a run list namesakes
* `FileSystem.firstHolder?_eq_some_iff`: which file has a name
* `FileSystem.mem_bystanders_nameTaken_iff`: which files are left out because their name is taken
* `Generation.ComesFrom.messages?_eq_some_iff`: the messages of a locale come from the one file of
  its name that takes part
* `exists_documentName_shared`: names that are no texts, of documents of one name
* `namesakes_of_folder`: what files of one document come to, and what a copy does not
-/

namespace MessageCatalog

/-! ## The files of one document in a list -/

/-- Among some files of a folder, two at most belong to one document. The first of two is the one of
the very name of the document, which does not end in `.json`, and the other has `.json` behind
it. -/
structure ListsNamesakes (folder : Path) (paths : List Path) : Prop where
  length_le_two : ∀ document, (paths.filter fun path => path.documentName = document).length ≤ 2
  pairwise : paths.Pairwise fun one other => ∀ document, one.documentName = document →
    other.documentName = document → ¬ HasDocumentSuffix document ∧
      one = folder.join ⟨document⟩ ∧ other = folder.join ⟨document ++ ".json"⟩

theorem listsNamesakes_singleton (folder path : Path) : ListsNamesakes folder [path] where
  length_le_two _ := (List.length_filter_le _ _).trans (Nat.le_succ 1)
  pairwise := List.pairwise_singleton _ _

namespace FileSystem

variable {fs fs' : FileSystem} {maxDepth : Nat} {folder : Path} {directory directory' : Place}
  {name document : String}

section WellNamed

variable (hnamed : fs.root.isWellNamed = true) (hfolder : fs.locate folder = .ok directory)

include hnamed hfolder

theorem pairwise_lt_documentNames : (fs.documentNames folder).Pairwise (· < ·) :=
  (isDocumentListing_documentNames hnamed hfolder).ordered.imp Text.lt_iff_bytes_lt.mpr

theorem documentName_of_mem_documentNames (h : name ∈ fs.documentNames folder) :
    (folder.join ⟨name⟩).documentName = documentNameOf name :=
  ((mem_documentNames_iff hnamed hfolder).mp h).documentName_join hnamed folder

theorem length_filter_documentNames_le (document : String) :
    ((fs.documentNames folder).filter fun name => documentNameOf name = document).length ≤ 2 := by
  have hnodup := (nodup_documentNames hnamed hfolder).filter
    fun name => documentNameOf name = document
  have hsubset : ((fs.documentNames folder).filter fun name => documentNameOf name = document) ⊆
      [document, document ++ ".json"] := by
    intro name hname
    have hdocument := of_decide_eq_true (List.mem_filter.mp hname).2
    rcases documentNameOf_eq_iff.mp hdocument with ⟨rfl, -⟩ | rfl
    · exact List.mem_cons_self
    · exact List.mem_cons_of_mem _ List.mem_cons_self
  exact (List.subperm_of_subset hnodup hsubset).length_le

/-- **The files of a folder list namesakes.** -/
theorem listsNamesakes_documentFiles : ListsNamesakes folder (fs.documentFiles folder) where
  length_le_two document := by
    have hfilter : (fs.documentFiles folder).filter (fun path => path.documentName = document) =
        ((fs.documentNames folder).filter fun name => documentNameOf name = document).map
          fun name => folder.join ⟨name⟩ := by
      rw [documentFiles_eq_map, List.filter_map]
      refine congrArg (List.map _) (List.filter_congr fun name hname => ?_)
      rw [Function.comp_apply, documentName_of_mem_documentNames hnamed hfolder hname]
    rw [hfilter, List.length_map]
    exact length_filter_documentNames_le hnamed hfolder document
  pairwise := by
    rw [documentFiles_eq_map, List.pairwise_map]
    apply (pairwise_lt_documentNames hnamed hfolder).imp_of_mem
    intro one other hone hother hlt document hdocument hdocument'
    rw [documentName_of_mem_documentNames hnamed hfolder hone] at hdocument
    rw [documentName_of_mem_documentNames hnamed hfolder hother] at hdocument'
    obtain ⟨hplain, rfl, rfl⟩ := namesakes_of_lt hlt hdocument hdocument'
    exact ⟨hplain, rfl, rfl⟩

end WellNamed

end FileSystem

/-- **The files of a run list namesakes**, whether or not a file is named. -/
theorem listsNamesakes_of_sourceFiles {fs : FileSystem} (hnamed : fs.root.isWellNamed = true)
    {folder : Path} {only : Option Path} {paths : List Path}
    (h : sourceFiles fs folder only = .ok paths) : ListsNamesakes folder paths := by
  obtain ⟨⟨directory, -, hfolder, -⟩, hpaths⟩ := Generation.sourceFiles_eq_ok_iff.mp h
  rcases hpaths with ⟨file, -, -, -, rfl⟩ | ⟨-, rfl, -⟩
  · exact listsNamesakes_singleton folder _
  · exact FileSystem.listsNamesakes_documentFiles hnamed hfolder

/-! ## Names that are taken -/

namespace FileSystem

variable {fs : FileSystem} {maxDepth : Nat} {earlier paths : List Path} {path holder : Path}
  {name : String}

/-- A file is left out because its name is taken if it holds a document, and the first earlier file
of that name that holds one has the name. -/
theorem skipReason_eq_nameTaken_iff :
    ¬ fs.TakesPart maxDepth earlier path ∧
        fs.skipReason maxDepth earlier path = .nameTaken name holder ↔
      fs.holdsDocument maxDepth path = true ∧ path.documentName = name ∧
        fs.firstHolder? maxDepth earlier name = some holder := by
  cases hload : Document.load fs path maxDepth with
  | error error =>
    rw [skipReason_of_load_eq_error hload, holdsDocument_of_load_eq_error hload]
    simp
  | ok document =>
    have hholds := holdsDocument_of_load hload
    have hname := Document.name_of_load hload
    rw [takesPart_iff, hholds, ← hname]
    cases hfirst : fs.firstHolder? maxDepth earlier document.name with
    | none =>
      have hother : document.name = name → fs.firstHolder? maxDepth earlier name ≠ some holder := by
        rintro rfl
        simp [hfirst]
      simpa using hother
    | some first =>
      rw [skipReason_of_load hload hfirst]
      simp only [true_and, SkipReason.nameTaken.injEq, reduceCtorEq, not_false_eq_true]
      constructor
      · rintro ⟨rfl, rfl⟩
        exact ⟨rfl, hfirst⟩
      · rintro ⟨rfl, hholder⟩
        exact ⟨rfl, Option.some.inj (hfirst.symm.trans hholder)⟩

theorem mem_bystanders_iff {reason : SkipReason} :
    (path, reason) ∈ fs.bystanders maxDepth paths ↔
      ∃ earlier later, paths = earlier ++ path :: later ∧ ¬ fs.TakesPart maxDepth earlier path ∧
        fs.skipReason maxDepth earlier path = reason := by
  simp only [bystanders, List.mem_map, List.mem_filter, decide_eq_true_eq, Prod.exists,
    Prod.mk.injEq, mem_withEarlier_iff]
  constructor
  · rintro ⟨earlier, other, ⟨⟨later, hsplit⟩, htakes⟩, rfl, hreason⟩
    exact ⟨earlier, later, hsplit, htakes, hreason⟩
  · rintro ⟨earlier, later, hsplit, htakes, hreason⟩
    exact ⟨earlier, path, ⟨⟨later, hsplit⟩, htakes⟩, rfl, hreason⟩

/-- **Which files are left out because their name is taken.** -/
theorem mem_bystanders_nameTaken_iff :
    (path, .nameTaken name holder) ∈ fs.bystanders maxDepth paths ↔
      ∃ earlier later, paths = earlier ++ path :: later ∧
        fs.holdsDocument maxDepth path = true ∧ path.documentName = name ∧
          fs.firstHolder? maxDepth earlier name = some holder := by
  simp only [mem_bystanders_iff, skipReason_eq_nameTaken_iff]

/-- **The first file that holds a document of a name** is the one of that name that takes part. -/
theorem firstHolder?_eq_some_iff :
    fs.firstHolder? maxDepth paths name = some holder ↔
      holder.documentName = name ∧ ∃ earlier later, paths = earlier ++ holder :: later ∧
        fs.TakesPart maxDepth earlier holder := by
  rw [firstHolder?, List.find?_eq_some_iff_append]
  simp only [Bool.and_eq_true, beq_iff_eq, Bool.not_eq_true', Bool.and_eq_false_imp,
    beq_eq_false_iff_ne]
  constructor
  · rintro ⟨⟨hholds, rfl⟩, earlier, later, hsplit, hearlier⟩
    exact ⟨rfl, earlier, later, hsplit, hholds, hearlier⟩
  · rintro ⟨rfl, earlier, later, hsplit, hholds, hearlier⟩
    exact ⟨⟨hholds, rfl⟩, earlier, later, hsplit, hearlier⟩

end FileSystem

/-! ## The locale of a name -/

/-- The documents chosen from some files are those of the files that take part. -/
theorem Selection.Covers.mem_documents_iff {selection : Selection} {fs : FileSystem}
    {maxDepth : Nat} {paths : List Path} (h : selection.Covers fs maxDepth paths)
    {document : Document} :
    document ∈ selection.documents ↔
      ∃ path ∈ fs.participants maxDepth paths, Document.load fs path maxDepth = .ok document := by
  rw [← h.chosen_eq]
  constructor
  · intro hmem
    obtain ⟨chosen, hchosen, rfl⟩ := List.mem_map.mp hmem
    exact ⟨chosen.path, List.mem_map_of_mem hchosen, h.loaded chosen hchosen⟩
  · rintro ⟨path, hpath, hload⟩
    obtain ⟨chosen, hchosen, rfl⟩ := List.mem_map.mp hpath
    obtain rfl := Except.ok.inj ((h.loaded chosen hchosen).symm.trans hload)
    exact List.mem_map_of_mem hchosen

namespace FileSystem

variable {fs fs' : FileSystem} {maxDepth : Nat} {folder : Path} {directory directory' : Place}
  {name document : String}

/-- Two directories have the same at the names of the files of a document. -/
def ShareFiles (fs fs' : FileSystem) (directory directory' : Place) (document : String) : Prop :=
  ∀ name, documentNameOf name = document →
    fs'.view (directory' ++ [name]) = fs.view (directory ++ [name])

theorem ShareFiles.symm (h : fs.ShareFiles fs' directory directory' document) :
    fs'.ShareFiles fs directory' directory document :=
  fun name hname => (h name hname).symm

section Shared

variable (hnamed : fs.root.isWellNamed = true) (hnamed' : fs'.root.isWellNamed = true)
  (hfolder : fs.locate folder = .ok directory) (hfolder' : fs'.locate folder = .ok directory')
  (hshared : fs.ShareFiles fs' directory directory' document)
  (hname : documentNameOf name = document)

include hshared hname

theorem Offers.of_shareFiles (h : fs.Offers directory name) : fs'.Offers directory' name :=
  ⟨hshared name hname ▸ h.isFile, h.isDocumentFile⟩

include hnamed hnamed' hfolder hfolder'

/-- A file that two directories share holds the same document in both. -/
theorem Offers.load_eq (h : fs.Offers directory name) :
    Document.load fs' (folder.join ⟨name⟩) maxDepth =
      Document.load fs (folder.join ⟨name⟩) maxDepth := by
  have hread : fs'.readText (folder.join ⟨name⟩) = fs.readText (folder.join ⟨name⟩) := by
    cases hflaw : (folder.join ⟨name⟩).flaw? with
    | some e => rw [readText_of_flaw hflaw, readText_of_flaw hflaw]
    | none =>
      -- both paths lead to the file that is shared
      obtain ⟨content, hcontent⟩ := h.isFile
      have hfound : fs.found (folder.join ⟨name⟩) = some (.file content) :=
        found_eq_some_iff.mpr ⟨_, (h.locate_join_iff hnamed hfolder).mpr ⟨hflaw, rfl⟩, hcontent⟩
      have hfound' : fs'.found (folder.join ⟨name⟩) = some (.file content) :=
        found_eq_some_iff.mpr ⟨_, ((h.of_shareFiles hshared hname).locate_join_iff hnamed'
          hfolder').mpr ⟨hflaw, rfl⟩, (hshared name hname).trans hcontent⟩
      exact readText_eq_of_found (hfound'.trans hfound.symm) (by simp [hfound])
  rw [Document.load, Document.load, hread]

/-- **Whether a file takes part depends on the files of its document only.** -/
theorem IsDocumentIn.of_shareFiles (h : fs.IsDocumentIn maxDepth folder directory name) :
    fs'.IsDocumentIn maxDepth folder directory' name where
  offered := h.offered.of_shareFiles hshared hname
  holds := by
    rw [holdsDocument, h.offered.load_eq hnamed hnamed' hfolder hfolder' hshared hname]
    exact h.holds
  first other hother hlt hothers hsame := by
    have hdocument := hsame.trans hname
    -- an earlier file of that document is there in both directories
    have hthere := hother.of_shareFiles hshared.symm hdocument
    refine h.first other hthere hlt ?_ hsame
    rw [holdsDocument, ← hthere.load_eq hnamed hnamed' hfolder hfolder' hshared hdocument]
    exact hothers

end Shared

/-- A folder leads to directories in two file systems that have the same entries, but for one
name. -/
def AlikeBut (fs fs' : FileSystem) (folder : Path) (name : String) : Prop :=
  ∀ directory directory', fs.locate folder = .ok directory → fs'.locate folder = .ok directory' →
    ∀ other, other ≠ name → fs'.view (directory' ++ [other]) = fs.view (directory ++ [other])

end FileSystem

namespace Generation.ComesFrom

variable {fs fs' : FileSystem} {root : Path} {settings : Settings} {made made' : Generation}
  {selection selection' : Selection} {reference reference' : Document}

/-- The warnings about files are those about the files that do not take part. -/
theorem skipped_mem_warnings_iff (h : made.ComesFrom fs root settings selection reference)
    {paths : List Path}
    (hpaths : sourceFiles fs (root.join ⟨settings.sourceDir⟩) (settings.sourceFile.map Path.mk) =
      .ok paths) {path : Path} {reason : SkipReason} :
    .skipped path reason ∈ made.warnings ↔
      (path, reason) ∈ fs.bystanders settings.maxDepth paths := by
  obtain ⟨warnings, hcheck, hwarnings⟩ := h.checked
  rw [hwarnings, warnings_of_checkEntries hcheck, Selection.warnings,
    (Selection.covers_of_selectDocuments hpaths h.selected).skipped_eq]
  simp

section Folder

variable (h : made.ComesFrom fs root settings selection reference)
  (hnamed : fs.root.isWellNamed = true) (hall : settings.sourceFile = none) {directory : Place}
  (hfolder : fs.locate (root.join ⟨settings.sourceDir⟩) = .ok directory)
  {locale : String} {messages : Messages}

include h hnamed hall hfolder

/-- **The messages of a locale come from the one file of its name that takes part.** -/
theorem messages?_eq_some_iff :
    (Table.build selection.documents).messages? locale = some messages ↔
      ∃ name document, documentNameOf name = locale ∧
        fs.IsDocumentIn settings.maxDepth (root.join ⟨settings.sourceDir⟩) directory name ∧
        Document.load fs ((root.join ⟨settings.sourceDir⟩).join ⟨name⟩) settings.maxDepth =
          .ok document ∧ Table.messagesOf document.resolved = messages := by
  obtain ⟨-, -, hpaths⟩ := h.exists_directory hall
  have hcovers := Selection.covers_of_selectDocuments hpaths h.selected
  rw [Table.messages?_build_eq_some_iff h.nodup_names]
  simp only [hcovers.mem_documents_iff,
    FileSystem.mem_participants_documentFiles_iff hnamed hfolder]
  constructor
  · rintro ⟨document, ⟨path, ⟨name, rfl, hdocument⟩, hload⟩, rfl, rfl⟩
    refine ⟨name, document, ?_, hdocument, hload, rfl⟩
    rw [Document.name_of_load hload, hdocument.offered.documentName_join hnamed]
  · rintro ⟨name, document, rfl, hdocument, hload, rfl⟩
    refine ⟨document, ⟨_, ⟨name, rfl, hdocument⟩, hload⟩, ?_, rfl⟩
    rw [Document.name_of_load hload, hdocument.offered.documentName_join hnamed]

variable (h' : made'.ComesFrom fs' root settings selection' reference')
  (hnamed' : fs'.root.isWellNamed = true) {directory' : Place}
  (hfolder' : fs'.locate (root.join ⟨settings.sourceDir⟩) = .ok directory')
  (hshared : fs.ShareFiles fs' directory directory' locale)

include h' hnamed' hfolder' hshared

theorem messages?_of_shareFiles
    (hmessages : (Table.build selection.documents).messages? locale = some messages) :
    (Table.build selection'.documents).messages? locale = some messages := by
  rw [h.messages?_eq_some_iff hnamed hall hfolder] at hmessages
  obtain ⟨name, document, hname, hdocument, hload, rfl⟩ := hmessages
  rw [h'.messages?_eq_some_iff hnamed' hall hfolder']
  refine ⟨name, document, hname,
    hdocument.of_shareFiles hnamed hnamed' hfolder hfolder' hshared hname, ?_, rfl⟩
  rw [hdocument.offered.load_eq hnamed hnamed' hfolder hfolder' hshared hname]
  exact hload

/-- **The messages of a locale depend on the files of its name only.** -/
theorem messages?_eq_of_shareFiles :
    (Table.build selection'.documents).messages? locale =
      (Table.build selection.documents).messages? locale := by
  apply Option.ext
  intro messages
  exact ⟨h'.messages?_of_shareFiles hnamed' hall hfolder' h hnamed hfolder hshared.symm,
    h.messages?_of_shareFiles hnamed hall hfolder h' hnamed' hfolder' hshared⟩

end Folder

end Generation.ComesFrom

/-! ## Files of one document -/

/-- An entry of the folder of a run has no say in a locale: no document of the locale comes from it,
and a run over a folder that has the same entries, but for this one, leaves the same messages to the
locale. -/
structure Generation.KeepsApart (made : Generation) (fs : FileSystem) (root : Path)
    (settings : Settings) (name locale : String) : Prop where
  path_ne : ∀ summary ∈ made.documents, summary.name = locale →
    summary.path ≠ (root.join ⟨settings.sourceDir⟩).join ⟨name⟩
  messages?_eq : settings.sourceFile = none → ∀ fs' made', fs'.root.isWellNamed = true →
    fs.AlikeBut fs' (root.join ⟨settings.sourceDir⟩) name → generate fs' root settings = .ok made' →
      ∃ table table', Table.read? made.messages.content = some table ∧
        Table.read? made'.messages.content = some table' ∧
        table'.messages? locale = table.messages? locale

section Run

variable {fs : FileSystem} {root : Path} {settings : Settings} {made : Generation}
  (hnamed : fs.root.isWellNamed = true) (h : generate fs root settings = .ok made)

include hnamed h

/-- **A file of another document has no say in a locale.** -/
theorem Generation.keepsApart_of_documentNameOf_ne {name locale : String}
    (hentry : isEntryName name = true) (hne : documentNameOf name ≠ locale) :
    made.KeepsApart fs root settings name locale where
  path_ne summary hsummary hlocale hpath := by
    obtain ⟨selection, reference, hfrom⟩ := exists_comesFrom h
    obtain ⟨document, -, hload, hname⟩ := hfrom.exists_document hsummary
    rw [Document.name_of_load hload, hpath, Path.documentName_join hentry] at hname
    exact hne (hname.trans hlocale)
  messages?_eq hall fs' made' hnamed' halike h' := by
    obtain ⟨selection, reference, hfrom⟩ := exists_comesFrom h
    obtain ⟨selection', reference', hfrom'⟩ := exists_comesFrom h'
    obtain ⟨directory, hfolder, -⟩ := hfrom.exists_directory hall
    obtain ⟨directory', hfolder', -⟩ := hfrom'.exists_directory hall
    -- the files of the locale have other names
    have hshared : fs.ShareFiles fs' directory directory' locale := fun other hother =>
      halike directory directory' hfolder hfolder' other fun hsame => hne (hsame ▸ hother)
    exact ⟨_, _, hfrom.read?_messages, hfrom'.read?_messages,
      hfrom.messages?_eq_of_shareFiles hnamed hall hfolder hfrom' hnamed' hfolder' hshared⟩

/-- **A file whose name is taken** has `.json` behind the name, and the file that has the name takes
part. -/
theorem Generation.eq_join_of_nameTaken {path holder : Path} {name : String}
    (hskipped : .skipped path (.nameTaken name holder) ∈ made.warnings) :
    ¬ HasDocumentSuffix name ∧ holder = (root.join ⟨settings.sourceDir⟩).join ⟨name⟩ ∧
      path = (root.join ⟨settings.sourceDir⟩).join ⟨name ++ ".json"⟩ ∧
      holder ∈ made.documents.map DocumentSummary.path := by
  obtain ⟨selection, reference, hfrom⟩ := exists_comesFrom h
  obtain ⟨paths, -, hpaths, -, -⟩ := Selection.selectDocuments_eq_ok hfrom.selected
  rw [hfrom.skipped_mem_warnings_iff hpaths, FileSystem.mem_bystanders_nameTaken_iff] at hskipped
  obtain ⟨earlier, later, rfl, -, hname, hfirst⟩ := hskipped
  obtain ⟨hholder, before, between, rfl, htakes⟩ := FileSystem.firstHolder?_eq_some_iff.mp hfirst
  -- the holder of the name comes before the file
  have hpairs := (listsNamesakes_of_sourceFiles hnamed hpaths).pairwise
  have hpair := (List.pairwise_append.mp hpairs).2.2 holder (by simp) path List.mem_cons_self
  obtain ⟨hplain, hone, hother⟩ := hpair name hholder hname
  refine ⟨hplain, hone, hother, ?_⟩
  rw [hfrom.summaryPaths_eq hpaths]
  exact FileSystem.mem_participants_iff.mpr ⟨before, between ++ path :: later, by simp, htakes⟩

end Run

/-! ## Names that are no texts -/

/-- Names of files in front of whose ending stands a byte that starts no character. -/
def strayNames : List (List UInt8) :=
  [[0xF5], [0xFE], [0xFF]].map fun stem => stem ++ Text.bytes ".json"

/-- Where the names of files are no texts, three files of a folder can have documents of one name,
and none of them is another one with `.json` behind it. Nor do the names `.` and `..` give two
names, since neither is the last name of a path. -/
theorem exists_documentName_shared :
    (strayNames.Nodup ∧ ∀ name ∈ strayNames, ¬ Text.IsUtf8 name ∧ 0x2F ∉ name ∧ 0x00 ∉ name ∧
      isDocumentFile (Text.ofBytes name) = true ∧ documentNameOfBytes name = "\uFFFD") ∧
    (¬ ∀ one ∈ strayNames, ∀ other ∈ strayNames, one ≠ other →
      (documentNameOfBytes one = documentNameOfBytes other ↔ AreNamesakes one other)) ∧
    ¬ ∀ one other : String, one ≠ other →
      ((Path.mk one).documentName = (Path.mk other).documentName ↔
        AreNamesakes (Text.bytes one) (Text.bytes other)) := by
  have hread : ∀ name ∈ strayNames, ¬ Text.IsUtf8 name ∧ 0x2F ∉ name ∧ 0x00 ∉ name ∧
      isDocumentFile (Text.ofBytes name) = true ∧ documentNameOfBytes name = "\uFFFD" := by
    decide +kernel
  refine ⟨⟨by decide +kernel, hread⟩, fun h => ?_, fun h => ?_⟩
  · have hone : [0xF5] ++ Text.bytes ".json" ∈ strayNames := by decide +kernel
    have hother : [0xFE] ++ Text.bytes ".json" ∈ strayNames := by decide +kernel
    obtain ⟨-, -, -, -, hname⟩ := hread _ hone
    obtain ⟨-, -, -, -, hname'⟩ := hread _ hother
    -- the two names are equally long, so neither is the other with an ending behind it
    have hsame := (h _ hone _ hother (by decide +kernel)).mp (hname.trans hname'.symm)
    exact hsame.length_ne rfl
  · have hsame : (Path.mk ".").documentName = (Path.mk "..").documentName := by decide +kernel
    obtain ⟨stem, -, ⟨rfl, hlonger⟩ | ⟨rfl, hlonger⟩⟩ := (h "." ".." (by decide)).mp hsame
    · exact absurd hlonger (by decide +kernel)
    · exact absurd hlonger (by decide +kernel)

/-! ## Files of one document -/

/-- **Files of one document in a folder.** Two different names that are texts belong to one document
exactly if one of them does not end in `.json` and the other is that name with `.json` behind it. So
two files of a run at most belong to one document, and the one without the ending comes first.
Whatever is left out because its name is taken ends in `.json`, and what has the name is the file
without the ending, which takes part. A copy whose name goes on behind the ending belongs to another
document than the original, whatever the bytes of the names are, and has no say in the locale of
that. -/
theorem namesakes_of_folder {fs : FileSystem} (hnamed : fs.root.isWellNamed = true)
    (folder : Path) :
    (∀ one other, Text.IsUtf8 one → Text.IsUtf8 other → one ≠ other →
      (documentNameOfBytes one = documentNameOfBytes other ↔ AreNamesakes one other)) ∧
    (∀ name, isEntryName name = true →
      (folder.join ⟨name⟩).documentName = documentNameOfBytes (Text.bytes name)) ∧
    (∀ only paths, sourceFiles fs folder only = .ok paths → ListsNamesakes folder paths) ∧
    (∀ root settings made, root.join ⟨settings.sourceDir⟩ = folder →
      generate fs root settings = .ok made → ∀ path name holder,
        .skipped path (.nameTaken name holder) ∈ made.warnings →
          ¬ HasDocumentSuffix name ∧ holder = folder.join ⟨name⟩ ∧
            path = folder.join ⟨name ++ ".json"⟩ ∧
            holder ∈ made.documents.map DocumentSummary.path) ∧
    (∀ original text, Text.bytes ".json" <:+ original → text ≠ [] →
      documentNameOfBytes (original ++ text) ≠ documentNameOfBytes original) ∧
    ∀ original text, HasDocumentSuffix original → text ≠ "" →
      isEntryName (original ++ text) = true →
        ∀ root settings made, root.join ⟨settings.sourceDir⟩ = folder →
          generate fs root settings = .ok made →
            made.KeepsApart fs root settings (original ++ text) (documentNameOf original) := by
  refine ⟨?_, ?_, fun only paths => listsNamesakes_of_sourceFiles hnamed, ?_, ?_, ?_⟩
  · intro one other hone hother hne
    exact documentNameOfBytes_eq_iff hone hother hne
  · intro name hname
    rw [Path.documentName_join hname, documentNameOfBytes, Text.ofBytes_bytes]
  · rintro root settings made rfl hmade path name holder hskipped
    exact Generation.eq_join_of_nameTaken hnamed hmade hskipped
  · intro original text hsuffix htext
    exact documentNameOfBytes_append_ne hsuffix htext
  · rintro original text hsuffix htext hentry root settings made rfl hmade
    exact Generation.keepsApart_of_documentNameOf_ne hnamed hmade hentry
      (documentNameOf_append_ne hsuffix htext)

/-- The files of `mixedProject` with an old copy of the last one. -/
def copiedProject : FileSystem :=
  projectOf [("a.json", "\x7b"), ("b.json~", "\x7b\"k\":\"one\"\x7d"),
    ("b.json~.json", "\x7b\"k\":\"two\"\x7d"),
    ("c.json", "\x7b\"x\":\x7b\"y\":\"1\"\x7d,\"x_y\":\"2\",\"1\":\"3\"\x7d"),
    ("c.json~", "\x7b\"x\":\"old\"\x7d")]

theorem selectDocuments_copiedProject :
    selectDocuments copiedProject ⟨""⟩ behindOthers =
      Selection.addAll 3 0 {}
        (loadAll copiedProject (["a.json", "b.json~", "b.json~.json", "c.json", "c.json~"].map
          fun name => Path.join ⟨"./messages"⟩ ⟨name⟩) behindOthers.maxDepth) := by
  apply Selection.selectDocuments_of_sorted
  · decide +kernel
  · rfl
  · decide +kernel
  · decide +kernel
  · decide +kernel
  · simp
  · decide +kernel

theorem view_projectOf (files : List (String × String)) (name : String) :
    (projectOf files).view ["messages", name] =
      (Rows.get? name files).map fun content => Kind.file content.toUTF8 := by
  have hmessages : (projectOf files).root.get? ["messages"] =
      some (.directory (files.map fun row => (row.1, .file row.2.toUTF8))) := rfl
  have hview := FileNode.kindAt_concat hmessages name
  rw [Rows.get?_map (fun content : String => FileNode.file content.toUTF8) name files,
    Option.map_map] at hview
  exact hview

theorem alikeBut_copiedProject :
    copiedProject.AlikeBut mixedProject ⟨"./messages"⟩ "c.json~" := by
  intro directory directory' hfolder hfolder' other hother
  have hplace : copiedProject.locate ⟨"./messages"⟩ = .ok ["messages"] := by decide +kernel
  have hplace' : mixedProject.locate ⟨"./messages"⟩ = .ok ["messages"] := by decide +kernel
  obtain rfl := Except.ok.inj (hplace.symm.trans hfolder)
  obtain rfl := Except.ok.inj (hplace'.symm.trans hfolder')
  -- every name but that of the copy has the same row in both listings
  change mixedProject.view ["messages", other] = copiedProject.view ["messages", other]
  rw [copiedProject, mixedProject, view_projectOf, view_projectOf]
  simp [Rows.get?_cons, Ne.symm hother]

/-- Two files of one document of which the second is left out, and a copy of another file, without
which its locale has the same messages. -/
theorem namesakes_copiedProject :
    documentNameOfBytes (Text.bytes "b.json~") =
        documentNameOfBytes (Text.bytes "b.json~.json") ∧
      ((Path.mk "./messages").join ⟨"c.json~"⟩).documentName =
        documentNameOfBytes (Text.bytes "c.json~") ∧
      (∀ stray ∈ strayNames,
        documentNameOfBytes (stray ++ Text.bytes "~") ≠ documentNameOfBytes stray) ∧
      (∃ paths, sourceFiles copiedProject ⟨"./messages"⟩ none = .ok paths ∧
        ListsNamesakes ⟨"./messages"⟩ paths) ∧
      ∃ made made', generate copiedProject ⟨""⟩ behindOthers = .ok made ∧
        generate mixedProject ⟨""⟩ behindOthers = .ok made' ∧
        made.documents.map DocumentSummary.name = ["b.json~", "c", "c.json~"] ∧
        .skipped ⟨"./messages/b.json~.json"⟩ (.nameTaken "b.json~" ⟨"./messages/b.json~"⟩) ∈
          made.warnings ∧
        ⟨"./messages/b.json~"⟩ ∈ made.documents.map DocumentSummary.path ∧
        ∃ table table', Table.read? made.messages.content = some table ∧
          Table.read? made'.messages.content = some table' ∧
          table'.messages? "c" = table.messages? "c" := by
  have hnamed : copiedProject.root.isWellNamed = true := by decide
  have hpaths : sourceFiles copiedProject ⟨"./messages"⟩ none =
      .ok (["a.json", "b.json~", "b.json~.json", "c.json", "c.json~"].map fun name =>
        Path.join ⟨"./messages"⟩ ⟨name⟩) := by
    apply sourceFiles_of_sorted
    · decide +kernel
    · decide +kernel
    · decide +kernel
    · simp
  have hcheck : isOkAnd (generate copiedProject ⟨""⟩ behindOthers) (fun made =>
      made.documents.map DocumentSummary.name = ["b.json~", "c", "c.json~"] ∧
        .skipped ⟨"./messages/b.json~.json"⟩ (.nameTaken "b.json~" ⟨"./messages/b.json~"⟩) ∈
          made.warnings) = true := by
    rw [generate, selectDocuments_copiedProject]
    decide +kernel
  have hcheck' : isOkAnd (generate mixedProject ⟨""⟩ behindOthers) (fun _ => true) = true := by
    rw [generate, selectDocuments_mixedProject]
    decide +kernel
  obtain ⟨made, hmade, hfacts⟩ := exists_of_isOkAnd hcheck
  obtain ⟨made', hmade', -⟩ := exists_of_isOkAnd hcheck'
  obtain ⟨hnames, hskipped⟩ := of_decide_eq_true hfacts
  have hmark : Text.bytes "~" ≠ [] := by decide +kernel
  have hstray : ∀ stray ∈ strayNames, Text.bytes ".json" <:+ stray := by decide +kernel
  obtain ⟨hpairs, hpath, hlisted, htaken, hcopies, hapart⟩ :=
    namesakes_of_folder hnamed ⟨"./messages"⟩
  obtain ⟨-, -, -, hholder⟩ := htaken ⟨""⟩ behindOthers made rfl hmade _ _ _ hskipped
  have hcopy : made.KeepsApart copiedProject ⟨""⟩ behindOthers "c.json~" "c" :=
    hapart "c.json" "~" (by decide) (by decide) (by decide) ⟨""⟩ behindOthers made rfl hmade
  have hlocale :=
    hcopy.messages?_eq rfl mixedProject made' (by decide) alikeBut_copiedProject hmade'
  refine ⟨?_, hpath "c.json~" (by decide), ?_, ⟨_, hpaths, hlisted none _ hpaths⟩, made, made',
    hmade, hmade', hnames, hskipped, hholder, hlocale⟩
  · rw [hpairs _ _ ⟨_, rfl⟩ ⟨_, rfl⟩ (by decide +kernel)]
    exact ⟨Text.bytes "b.json~", by decide +kernel, Or.inl ⟨rfl, by decide +kernel⟩⟩
  · intro stray hmem
    exact hcopies stray _ (hstray stray hmem) hmark

end MessageCatalog
