import MessageCatalog.Proofs.Generation.Choice

/-!
# The document of the constants

The constants come from one file that is chosen before any file is read. Its place is counted among
all files, and the place of its document among the documents that were taken in; the two differ as
soon as an earlier file is left out.

## Main definitions

* `referencePath?` — the file that the constants come from.
* `Selection.RefersTo` — the place that is kept for the reference is that of its document.

## Main results

* `exists_path_of_referenceIndex`: the reference is the first file of its name
* `Selection.RefersTo.add`: one more file
* `Selection.exists_first_of_selectDocuments`: the reference holds a document, and none before it
  has its name
* `Selection.exists_reference`: the constants come from the first file that is asked for
-/

namespace MessageCatalog

/-- The file of a run that the constants come from: the first one, or the first whose document would
have the name that is asked for. -/
def referencePath? (locale : Option String) (paths : List Path) : Option Path :=
  match locale with
  | none => paths.head?
  | some name => paths.find? fun path => path.documentName = name

theorem documentName_of_referencePath? {name : String} {paths : List Path} {path : Path}
    (h : referencePath? (some name) paths = some path) : path.documentName = name := by
  rw [referencePath?] at h
  simpa using List.find?_some h

theorem sourceFiles_ne_nil {fs : FileSystem} {folder : Path} {only : Option Path}
    {paths : List Path} (h : sourceFiles fs folder only = .ok paths) : paths ≠ [] := by
  rintro rfl
  unfold sourceFiles at h
  split at h
  · cases h
  · cases only with
    | some file =>
      simp only at h
      split at h <;> cases h
    | none =>
      simp only at h
      split at h
      · cases h
      · next hfiles =>
        rw [Except.ok.inj h] at hfiles
        exact hfiles rfl

/-- The place of the reference is that of its file, and no file before that has its name. -/
theorem exists_path_of_referenceIndex {locale : Option String} {paths : List Path}
    (hpaths : paths ≠ []) {reference : Nat} (h : referenceIndex locale paths = .ok reference) :
    ∃ path, referencePath? locale paths = some path ∧ paths[reference]? = some path ∧
      ∀ other ∈ paths.take reference, other.documentName ≠ path.documentName := by
  cases locale with
  | none =>
    obtain rfl := Except.ok.inj h
    obtain ⟨path, rest, rfl⟩ := List.exists_cons_of_ne_nil hpaths
    exact ⟨path, rfl, rfl, by simp⟩
  | some name =>
    simp only [referenceIndex] at h
    split at h
    · next index hindex =>
      obtain rfl := Except.ok.inj h
      obtain ⟨hlt, hname, hbefore⟩ := List.findIdx?_eq_some_iff_getElem.mp hindex
      refine ⟨paths[index], ?_, List.getElem?_eq_getElem hlt, ?_⟩
      · rw [referencePath?, List.find?_eq_some_iff_getElem]
        exact ⟨hname, index, hlt, rfl, fun j hj => by simpa using hbefore j hj⟩
      · intro other hother
        obtain ⟨j, hj, rfl⟩ := List.mem_take_iff_getElem.mp hother
        have hne := hbefore j (by omega)
        rw [of_decide_eq_true hname]
        simpa using hne
    · cases h

namespace Selection

variable {fs : FileSystem} {maxDepth reference : Nat}

/-- If the file at the place of the reference is the first of its name, it holds a document, and
that one stands at the place that is kept for the reference. -/
def RefersTo (selection : Selection) (fs : FileSystem) (maxDepth reference : Nat)
    (paths : List Path) : Prop :=
  ∀ path, paths[reference]? = some path →
    (∀ other ∈ paths.take reference, other.documentName ≠ path.documentName) →
      ∃ document index, Document.load fs path maxDepth = .ok document ∧
        selection.reference = some index ∧ selection.documents[index]? = some document

/-- The file of the reference itself. -/
theorem refersTo_add_reference {selection next : Selection} {earlier : List Path}
    (hcovers : selection.Covers fs maxDepth earlier) {path : Path}
    (h : selection.add ⟨path, Document.load fs path maxDepth⟩ true = .ok next)
    (hfirst : ∀ other ∈ earlier, other.documentName ≠ path.documentName) :
    ∃ document index, Document.load fs path maxDepth = .ok document ∧
      next.reference = some index ∧ next.documents[index]? = some document := by
  rcases add_cases h with ⟨document, hload, -, rfl⟩ | ⟨document, holder, hload, hholder, -⟩ |
    ⟨-, -, hfalse, -⟩
  · refine ⟨document, selection.chosen.length, hload, rfl, ?_⟩
    simp [documents, choose]
  · -- an earlier holder of the name would be an earlier file of that name
    rw [hcovers.holder?_eq, Document.name_of_load hload] at hholder
    have hmem := List.mem_of_find?_eq_some hholder
    have hname := List.find?_some hholder
    simp only [Bool.and_eq_true, beq_iff_eq] at hname
    exact absurd hname.2 (hfirst holder hmem)
  · cases hfalse

/-- Any later file leaves the reference where it is. -/
theorem refersTo_add_later {selection next : Selection} {file : Loaded} {index : Nat}
    {document : Document} (h : selection.add file false = .ok next)
    (hindex : selection.reference = some index)
    (hdocument : selection.documents[index]? = some document) :
    next.reference = some index ∧ next.documents[index]? = some document := by
  rcases add_cases h with ⟨other, -, -, rfl⟩ | ⟨-, -, -, -, rfl⟩ | ⟨-, -, -, rfl⟩
  · refine ⟨hindex, ?_⟩
    have hlt : index < selection.documents.length :=
      (List.getElem?_eq_some_iff.mp hdocument).1
    simp only [documents, choose, List.map_append] at hlt hdocument ⊢
    rw [List.getElem?_append_left hlt]
    exact hdocument
  · exact ⟨hindex, hdocument⟩
  · exact ⟨hindex, hdocument⟩

theorem RefersTo.add {selection next : Selection} {earlier : List Path}
    (hcovers : selection.Covers fs maxDepth earlier)
    (hrefers : selection.RefersTo fs maxDepth reference earlier) {path : Path}
    (h : selection.add ⟨path, Document.load fs path maxDepth⟩ (earlier.length == reference) =
      .ok next) :
    next.RefersTo fs maxDepth reference (earlier ++ [path]) := by
  intro target htarget hfirst
  rcases Nat.lt_trichotomy reference earlier.length with hlt | rfl | hgt
  · -- the file of the reference has been gone through before
    rw [List.getElem?_append_left hlt] at htarget
    rw [List.take_append_of_le_length hlt.le] at hfirst
    obtain ⟨document, index, hload, hindex, hdocument⟩ := hrefers target htarget hfirst
    rw [beq_false_of_ne hlt.ne'] at h
    exact ⟨document, index, hload, refersTo_add_later h hindex hdocument⟩
  · obtain rfl : path = target := by simpa using htarget
    rw [List.take_left] at hfirst
    rw [beq_self_eq_true] at h
    exact refersTo_add_reference hcovers h hfirst
  · have hnone : (earlier ++ [path])[reference]? = none := by
      rw [List.getElem?_eq_none_iff, List.length_append]
      exact hgt
    rw [hnone] at htarget
    cases htarget

theorem refersTo_of_addAll {paths : List Path} {selection : Selection}
    (h : addAll reference 0 {} (loadAll fs paths maxDepth) = .ok selection) :
    selection.RefersTo fs maxDepth reference paths :=
  (run_induction (P := fun paths selection => selection.Covers fs maxDepth paths ∧
      selection.RefersTo fs maxDepth reference paths)
    (fun hnext hboth => ⟨hboth.1.add hnext, hboth.2.add hboth.1 hnext⟩) h
    ⟨Covers.start, fun path hpath => by simp at hpath⟩).2

/-- The file that the constants come from holds a document, and no file before it has its name. -/
theorem exists_first_of_selectDocuments {root : Path} {settings : Settings}
    {selection : Selection} (h : selectDocuments fs root settings = .ok selection)
    {paths : List Path}
    (hpaths : sourceFiles fs (root.join ⟨settings.sourceDir⟩) (settings.sourceFile.map Path.mk) =
      .ok paths) :
    ∃ path before after document,
      referencePath? settings.referenceLocale paths = some path ∧
      paths = before ++ path :: after ∧
      (∀ other ∈ before, other.documentName ≠ path.documentName) ∧
      Document.load fs path settings.maxDepth = .ok document ∧
      selection.referenceDocument? = some document := by
  obtain ⟨found, reference, hfound, hreference, hadd⟩ := selectDocuments_eq_ok h
  obtain rfl := Except.ok.inj (hfound.symm.trans hpaths)
  obtain ⟨path, hpath, hplace, hfirst⟩ :=
    exists_path_of_referenceIndex (sourceFiles_ne_nil hpaths) hreference
  obtain ⟨document, index, hload, hindex, hdocument⟩ :=
    refersTo_of_addAll hadd path hplace hfirst
  obtain ⟨hlt, rfl⟩ := List.getElem?_eq_some_iff.mp hplace
  refine ⟨_, found.take reference, found.drop (reference + 1), document, hpath, ?_, hfirst, hload,
    ?_⟩
  · rw [List.getElem_cons_drop, List.take_append_drop]
  · rw [referenceDocument?, hindex]
    exact hdocument

/-- **The constants come from the first file that is asked for.** -/
theorem exists_reference {root : Path} {settings : Settings} {selection : Selection}
    (h : selectDocuments fs root settings = .ok selection) :
    ∃ paths path document index,
      sourceFiles fs (root.join ⟨settings.sourceDir⟩) (settings.sourceFile.map Path.mk) =
        .ok paths ∧
      referencePath? settings.referenceLocale paths = some path ∧
      Document.load fs path settings.maxDepth = .ok document ∧
      selection.reference = some index ∧
      index < selection.documents.length ∧ selection.documents[index]? = some document ∧
      selection.referenceDocument? = some document ∧
      ∀ made, generate fs root settings = .ok made →
        made.reference = document.name ∧
          made.keys.content = Constants.render (document.flatten settings.skipBranchKeys) ∧
          made.constantCount = (document.flatten settings.skipBranchKeys).length := by
  obtain ⟨paths, reference, hpaths, hreference, hadd⟩ := selectDocuments_eq_ok h
  obtain ⟨path, hpath, hplace, hfirst⟩ :=
    exists_path_of_referenceIndex (sourceFiles_ne_nil hpaths) hreference
  have hrefers : selection.Covers fs settings.maxDepth paths ∧
      selection.RefersTo fs settings.maxDepth reference paths := by
    apply run_induction (P := fun paths selection =>
      selection.Covers fs settings.maxDepth paths ∧
        selection.RefersTo fs settings.maxDepth reference paths) _ hadd
    · exact ⟨Covers.start, fun path hpath => by simp at hpath⟩
    · rintro earlier selection next path hnext ⟨hcovers, hrefers⟩
      exact ⟨hcovers.add hnext, hrefers.add hcovers hnext⟩
  obtain ⟨document, index, hload, hindex, hdocument⟩ := hrefers.2 path hplace hfirst
  have hfound : selection.referenceDocument? = some document := by
    rw [referenceDocument?, hindex]
    exact hdocument
  refine ⟨paths, path, document, index, hpaths, hpath, hload, hindex,
    (List.getElem?_eq_some_iff.mp hdocument).1, hdocument, hfound, ?_⟩
  intro made hmade
  obtain ⟨other, found, hfrom⟩ := exists_comesFrom hmade
  obtain rfl := Except.ok.inj (h.symm.trans hfrom.selected)
  obtain rfl := Option.some.inj (hfound.symm.trans hfrom.isReference)
  rw [hfrom.keys_eq]
  exact ⟨hfrom.name_eq, rfl, hfrom.count_eq⟩

end Selection

/-- The reference is the last file of four, and the second of the two that take part. -/
theorem reference_mixedProject :
    ∃ selection, selectDocuments mixedProject ⟨""⟩ behindOthers = .ok selection ∧
      ∃ paths path document,
        sourceFiles mixedProject ((Path.mk "").join ⟨behindOthers.sourceDir⟩)
          (behindOthers.sourceFile.map Path.mk) = .ok paths ∧
        referencePath? behindOthers.referenceLocale paths = some path ∧
        Document.load mixedProject path behindOthers.maxDepth = .ok document ∧
        document.name = "c" ∧ selection.reference = some 1 ∧
        selection.documents[1]? = some document := by
  have hcheck : isOkAnd (selectDocuments mixedProject ⟨""⟩ behindOthers)
      (fun selection => selection.reference = some 1) = true := by
    rw [selectDocuments_mixedProject]
    decide +kernel
  obtain ⟨selection, hselect, hone⟩ := exists_of_isOkAnd hcheck
  have hone : selection.reference = some 1 := of_decide_eq_true hone
  obtain ⟨paths, path, document, index, hpaths, hpath, hload, hindex, -, hdocument, -, -⟩ :=
    Selection.exists_reference hselect
  obtain rfl := Option.some.inj (hone.symm.trans hindex)
  have hname : path.documentName = "c" := documentName_of_referencePath? hpath
  exact ⟨selection, hselect, paths, path, document, hpaths, hpath, hload,
    (Document.name_of_load hload).trans hname, hone, hdocument⟩

end MessageCatalog
