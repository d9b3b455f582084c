import MessageCatalog.Proofs.Entry.Check
import MessageCatalog.Proofs.Generation.Fetching
import MessageCatalog.Proofs.Table.Reader
import MessageCatalog.Proofs.Table.Sharing

/-!
# Which files take part

The files of a run are gone through one after the other, and what becomes of one depends on those
before it. Here this is said of the list of the files alone: a file takes part if it holds a
document and no file before it that holds one has its name.

## Main definitions

* `FileSystem.TakesPart` — a file takes part behind some earlier ones.
* `FileSystem.participants`, `FileSystem.bystanders` — the files of a list that take part, and those
  that do not with the reasons for it.
* `Selection.Covers` — the documents chosen so far are those of some files.
* `Generation.AccountsFor` — a generation tells about every file of a run.

## Main results

* `Selection.Covers.add`: one more file
* `Selection.run_induction`: what one more file preserves holds of all files of a run
* `Generation.ComesFrom.exists_document`: every document of a generation is the one in its file
* `exists_accountsFor`: every generation tells about every file of its run
-/

namespace MessageCatalog

/-! ## Documents and the names of their files -/

theorem Document.name_of_ofJson {name : String} {value : Json} {maxDepth : Nat}
    {document : Document} (h : ofJson name value maxDepth = .ok document) :
    document.name = name := by
  unfold ofJson at h
  split at h
  · cases h
    rfl
  · cases h
  · cases h

/-- A document has the name of its file. -/
theorem Document.name_of_load {fs : FileSystem} {path : Path} {maxDepth : Nat}
    {document : Document} (h : load fs path maxDepth = .ok document) :
    document.name = path.documentName := by
  unfold load at h
  split at h
  · unfold parse at h
    split at h
    · exact name_of_ofJson h
    · cases h
  · cases h

/-! ## The files that take part -/

/-- The elements of a list, each behind those before it. -/
def withEarlier {α : Type} (xs : List α) : List (List α × α) :=
  xs.zipIdx.map fun (x, index) => (xs.take index, x)

theorem withEarlier_concat {α : Type} (xs : List α) (x : α) :
    withEarlier (xs ++ [x]) = withEarlier xs ++ [(xs, x)] := by
  rw [withEarlier, List.zipIdx_append, List.map_append, withEarlier]
  congr 1
  · -- before an old element stand the same elements as before
    apply List.map_congr_left
    rintro ⟨other, index⟩ hmem
    have hindex : index ≤ xs.length := (List.snd_lt_of_mem_zipIdx hmem).le
    exact congrArg (·, other) (List.take_append_of_le_length hindex)
  · simp

theorem mem_withEarlier_iff {α : Type} {xs earlier : List α} {x : α} :
    (earlier, x) ∈ withEarlier xs ↔ ∃ later, xs = earlier ++ x :: later := by
  simp only [withEarlier, List.mem_map, Prod.mk.injEq, Prod.exists, List.mk_mem_zipIdx_iff_getElem?]
  constructor
  · rintro ⟨other, index, hother, rfl, rfl⟩
    obtain ⟨hindex, rfl⟩ := List.getElem?_eq_some_iff.mp hother
    exact ⟨xs.drop (index + 1), by rw [List.getElem_cons_drop, List.take_append_drop]⟩
  · rintro ⟨later, rfl⟩
    exact ⟨x, earlier.length, by simp, List.take_left, rfl⟩

namespace FileSystem

variable (fs : FileSystem) (maxDepth : Nat)

/-- Whether a file holds a document. -/
def holdsDocument (path : Path) : Bool :=
  (Document.load fs path maxDepth).isOk

/-- The first of some files that holds a document of some name. -/
def firstHolder? (paths : List Path) (name : String) : Option Path :=
  paths.find? fun path => fs.holdsDocument maxDepth path && path.documentName == name

/-- A file takes part behind some earlier ones: it holds a document, and no earlier file that holds
one has its name. -/
def TakesPart (earlier : List Path) (path : Path) : Prop :=
  fs.holdsDocument maxDepth path = true ∧
    ∀ other ∈ earlier, fs.holdsDocument maxDepth other = true →
      other.documentName ≠ path.documentName

instance (earlier : List Path) (path : Path) : Decidable (fs.TakesPart maxDepth earlier path) :=
  inferInstanceAs (Decidable (_ ∧ _))

/-- The files of a list that take part, in order. -/
def participants (paths : List Path) : List Path :=
  ((withEarlier paths).filter fun (earlier, path) => fs.TakesPart maxDepth earlier path).map
    Prod.snd

/-- Why a file does not take part behind some earlier ones. -/
def skipReason (earlier : List Path) (path : Path) : SkipReason :=
  match Document.load fs path maxDepth with
  | .error error => .notLoaded error
  | .ok document =>
    .nameTaken document.name ((fs.firstHolder? maxDepth earlier document.name).getD path)

/-- The files of a list that do not take part, in order, with the reasons for it. -/
def bystanders (paths : List Path) : List (Path × SkipReason) :=
  ((withEarlier paths).filter fun (earlier, path) => ¬ fs.TakesPart maxDepth earlier path).map
    fun (earlier, path) => (path, fs.skipReason maxDepth earlier path)

variable {fs maxDepth} {earlier : List Path} {path : Path}

theorem mem_participants_iff {paths : List Path} :
    path ∈ fs.participants maxDepth paths ↔
      ∃ earlier later, paths = earlier ++ path :: later ∧ fs.TakesPart maxDepth earlier path := by
  simp only [participants, List.mem_map, List.mem_filter, decide_eq_true_eq, Prod.exists,
    exists_eq_right, mem_withEarlier_iff]
  simp only [exists_and_right]

theorem participants_concat_of_takesPart (h : fs.TakesPart maxDepth earlier path) :
    fs.participants maxDepth (earlier ++ [path]) = fs.participants maxDepth earlier ++ [path] := by
  simp [participants, withEarlier_concat, h]

theorem participants_concat_of_not_takesPart (h : ¬ fs.TakesPart maxDepth earlier path) :
    fs.participants maxDepth (earlier ++ [path]) = fs.participants maxDepth earlier := by
  simp [participants, withEarlier_concat, h]

theorem bystanders_concat_of_takesPart (h : fs.TakesPart maxDepth earlier path) :
    fs.bystanders maxDepth (earlier ++ [path]) = fs.bystanders maxDepth earlier := by
  simp [bystanders, withEarlier_concat, h]

theorem bystanders_concat_of_not_takesPart (h : ¬ fs.TakesPart maxDepth earlier path) :
    fs.bystanders maxDepth (earlier ++ [path]) =
      fs.bystanders maxDepth earlier ++ [(path, fs.skipReason maxDepth earlier path)] := by
  simp [bystanders, withEarlier_concat, h]

theorem holdsDocument_of_load {document : Document}
    (h : Document.load fs path maxDepth = .ok document) :
    fs.holdsDocument maxDepth path = true := by
  rw [holdsDocument, h]
  rfl

theorem holdsDocument_of_load_eq_error {error : DocumentError}
    (h : Document.load fs path maxDepth = .error error) :
    fs.holdsDocument maxDepth path = false := by
  rw [holdsDocument, h]
  rfl

theorem firstHolder?_concat (name : String) :
    fs.firstHolder? maxDepth (earlier ++ [path]) name =
      (fs.firstHolder? maxDepth earlier name).or
        (if fs.holdsDocument maxDepth path ∧ path.documentName = name then some path else none) := by
  simp [firstHolder?, List.find?_append, List.find?_singleton]

theorem takesPart_iff :
    fs.TakesPart maxDepth earlier path ↔
      fs.holdsDocument maxDepth path = true ∧
        fs.firstHolder? maxDepth earlier path.documentName = none := by
  rw [TakesPart, firstHolder?, List.find?_eq_none]
  simp

/-- A file that does not take part is never the first of its name. -/
theorem firstHolder?_concat_of_not_takesPart (h : ¬ fs.TakesPart maxDepth earlier path)
    (name : String) :
    fs.firstHolder? maxDepth (earlier ++ [path]) name = fs.firstHolder? maxDepth earlier name := by
  rw [firstHolder?_concat]
  split
  · next hname =>
    obtain ⟨hholds, rfl⟩ := hname
    cases hfirst : fs.firstHolder? maxDepth earlier path.documentName with
    | none => exact absurd (takesPart_iff.mpr ⟨hholds, hfirst⟩) h
    | some holder => rfl
  · exact Option.or_none

theorem skipReason_of_load {document : Document}
    (h : Document.load fs path maxDepth = .ok document) {holder : Path}
    (hholder : fs.firstHolder? maxDepth earlier document.name = some holder) :
    fs.skipReason maxDepth earlier path = .nameTaken document.name holder := by
  simp only [skipReason, h, hholder, Option.getD_some]

theorem skipReason_of_load_eq_error {error : DocumentError}
    (h : Document.load fs path maxDepth = .error error) :
    fs.skipReason maxDepth earlier path = .notLoaded error := by
  simp only [skipReason, h]

end FileSystem

/-! ## Documents chosen so far -/

namespace Selection

variable {fs : FileSystem} {maxDepth reference : Nat}

/-- The documents chosen so far are those of the files of a list that take part. -/
structure Covers (selection : Selection) (fs : FileSystem) (maxDepth : Nat) (paths : List Path) :
    Prop where
  chosen_eq : selection.chosen.map Chosen.path = fs.participants maxDepth paths
  loaded : ∀ chosen ∈ selection.chosen,
    Document.load fs chosen.path maxDepth = .ok chosen.document
  skipped_eq : selection.skipped = fs.bystanders maxDepth paths
  holder?_eq : ∀ name, selection.holder? name = fs.firstHolder? maxDepth paths name

theorem Covers.start : Covers {} fs maxDepth [] where
  chosen_eq := rfl
  loaded := by simp
  skipped_eq := rfl
  holder?_eq _ := rfl

theorem holder?_choose (selection : Selection) (path : Path) (document : Document)
    (isReference : Bool) (name : String) :
    (selection.choose path document isReference).holder? name =
      (selection.holder? name).or (if document.name = name then some path else none) := by
  rw [holder?, holder?, choose, List.find?_append, Option.map_or, List.find?_singleton]
  simp only [decide_eq_true_eq]
  split <;> rfl

/-- A document is taken in. -/
theorem Covers.choose {selection : Selection} {earlier : List Path}
    (hcovers : selection.Covers fs maxDepth earlier) {path : Path} {document : Document}
    (hload : Document.load fs path maxDepth = .ok document)
    (hholder : selection.holder? document.name = none) (isReference : Bool) :
    (selection.choose path document isReference).Covers fs maxDepth (earlier ++ [path]) := by
  have htakes : fs.TakesPart maxDepth earlier path := by
    rw [FileSystem.takesPart_iff, ← Document.name_of_load hload, ← hcovers.holder?_eq]
    exact ⟨FileSystem.holdsDocument_of_load hload, hholder⟩
  refine ⟨?_, ?_, ?_, ?_⟩
  · rw [FileSystem.participants_concat_of_takesPart htakes, ← hcovers.chosen_eq]
    simp [Selection.choose]
  · intro chosen hchosen
    rcases List.mem_append.mp hchosen with hold | hnew
    · exact hcovers.loaded chosen hold
    · obtain rfl := List.mem_singleton.mp hnew
      exact hload
  · rw [FileSystem.bystanders_concat_of_takesPart htakes]
    exact hcovers.skipped_eq
  · intro name
    rw [holder?_choose, FileSystem.firstHolder?_concat, hcovers.holder?_eq,
      Document.name_of_load hload]
    simp [FileSystem.holdsDocument_of_load hload]

/-- A file is left out. -/
theorem Covers.skip {selection : Selection} {earlier : List Path}
    (hcovers : selection.Covers fs maxDepth earlier) {path : Path}
    (htakes : ¬ fs.TakesPart maxDepth earlier path) :
    (selection.skip path (fs.skipReason maxDepth earlier path)).Covers fs maxDepth
      (earlier ++ [path]) := by
  refine ⟨?_, hcovers.loaded, ?_, ?_⟩
  · rw [FileSystem.participants_concat_of_not_takesPart htakes]
    exact hcovers.chosen_eq
  · rw [FileSystem.bystanders_concat_of_not_takesPart htakes, ← hcovers.skipped_eq]
    rfl
  · intro name
    rw [FileSystem.firstHolder?_concat_of_not_takesPart htakes]
    exact hcovers.holder?_eq name

/-- **One more file**: it is taken in if it takes part behind the files before it, and left out for
the right reason if it does not. -/
theorem Covers.add {selection next : Selection} {earlier : List Path}
    (hcovers : selection.Covers fs maxDepth earlier) {path : Path} {isReference : Bool}
    (h : selection.add ⟨path, Document.load fs path maxDepth⟩ isReference = .ok next) :
    next.Covers fs maxDepth (earlier ++ [path]) := by
  rcases add_cases h with ⟨document, hload, hholder, rfl⟩ | ⟨document, holder, hload, hholder, rfl⟩ |
    ⟨error, hload, -, rfl⟩
  · exact hcovers.choose hload hholder isReference
  · rw [hcovers.holder?_eq] at hholder
    rw [← FileSystem.skipReason_of_load hload hholder]
    apply hcovers.skip
    rw [FileSystem.takesPart_iff, ← Document.name_of_load hload, hholder]
    simp
  · rw [← FileSystem.skipReason_of_load_eq_error hload]
    apply hcovers.skip
    rw [FileSystem.takesPart_iff, FileSystem.holdsDocument_of_load_eq_error hload]
    simp

/-- **What one more file preserves holds of all files of a run.** -/
theorem addAll_loadAll_induction {P : List Path → Selection → Prop}
    (step : ∀ {earlier selection next path},
      selection.add ⟨path, Document.load fs path maxDepth⟩ (earlier.length == reference) =
        .ok next → P earlier selection → P (earlier ++ [path]) next)
    {earlier paths : List Path} {selection last : Selection}
    (h : addAll reference earlier.length selection (loadAll fs paths maxDepth) = .ok last)
    (hstart : P earlier selection) : P (earlier ++ paths) last := by
  induction paths generalizing earlier selection with
  | nil =>
    cases h
    rw [List.append_nil]
    exact hstart
  | cons path rest ih =>
    rw [loadAll, List.map_cons, addAll] at h
    split at h
    · next next hadd =>
      have hrest : addAll reference (earlier ++ [path]).length next (loadAll fs rest maxDepth) =
          .ok last := by
        rw [List.length_append]
        exact h
      rw [List.append_cons]
      exact ih hrest (step hadd hstart)
    · cases h

/-- A whole run starts with no file and nothing chosen. -/
theorem run_induction {P : List Path → Selection → Prop}
    (step : ∀ {earlier selection next path},
      selection.add ⟨path, Document.load fs path maxDepth⟩ (earlier.length == reference) =
        .ok next → P earlier selection → P (earlier ++ [path]) next)
    {paths : List Path} {last : Selection}
    (h : addAll reference 0 {} (loadAll fs paths maxDepth) = .ok last) (hstart : P [] {}) :
    P paths last := by
  have hrun : addAll reference ([] : List Path).length {} (loadAll fs paths maxDepth) = .ok last :=
    h
  exact addAll_loadAll_induction step hrun hstart

theorem covers_of_selectDocuments {root : Path} {settings : Settings} {selection : Selection}
    {paths : List Path}
    (hpaths : sourceFiles fs (root.join ⟨settings.sourceDir⟩) (settings.sourceFile.map Path.mk) =
      .ok paths)
    (h : selectDocuments fs root settings = .ok selection) :
    selection.Covers fs settings.maxDepth paths := by
  obtain ⟨found, reference, hfound, -, hadd⟩ := selectDocuments_eq_ok h
  obtain rfl := Except.ok.inj (hpaths.symm.trans hfound)
  exact run_induction (P := fun paths selection => selection.Covers fs settings.maxDepth paths)
    (fun hadd hcovers => hcovers.add hadd) hadd Covers.start

end Selection

/-! ## The documents of a generation -/

namespace Generation.ComesFrom

variable {fs : FileSystem} {root : Path} {settings : Settings} {made : Generation}
  {selection : Selection} {reference : Document}

theorem summaryNames_eq (h : made.ComesFrom fs root settings selection reference) :
    made.documents.map DocumentSummary.name = selection.documents.map Document.name := by
  rw [h.documents_eq, Selection.documents, List.map_map, List.map_map]
  rfl

theorem nodup_summaryNames (h : made.ComesFrom fs root settings selection reference) :
    (made.documents.map DocumentSummary.name).Nodup :=
  h.summaryNames_eq ▸ h.nodup_names

/-- The file of messages holds the table of the documents. -/
theorem read?_messages (h : made.ComesFrom fs root settings selection reference) :
    Table.read? made.messages.content = some (Table.build selection.documents) := by
  rw [h.messages_eq]
  exact Table.read?_render_eq _ _

/-- The documents come from the files that take part. -/
theorem summaryPaths_eq (h : made.ComesFrom fs root settings selection reference)
    {paths : List Path}
    (hpaths : sourceFiles fs (root.join ⟨settings.sourceDir⟩) (settings.sourceFile.map Path.mk) =
      .ok paths) :
    made.documents.map DocumentSummary.path = fs.participants settings.maxDepth paths := by
  rw [← (Selection.covers_of_selectDocuments hpaths h.selected).chosen_eq, h.documents_eq,
    List.map_map]
  rfl

/-- **Every document of a generation is the one in its file**, and has its name. -/
theorem exists_document (h : made.ComesFrom fs root settings selection reference)
    {summary : DocumentSummary} (hmem : summary ∈ made.documents) :
    ∃ document ∈ selection.documents,
      Document.load fs summary.path settings.maxDepth = .ok document ∧
        document.name = summary.name := by
  obtain ⟨paths, -, hpaths, -, -⟩ := Selection.selectDocuments_eq_ok h.selected
  have hcovers := Selection.covers_of_selectDocuments hpaths h.selected
  rw [h.documents_eq] at hmem
  obtain ⟨chosen, hchosen, rfl⟩ := List.mem_map.mp hmem
  exact ⟨chosen.document, List.mem_map_of_mem hchosen, hcovers.loaded chosen hchosen, rfl⟩

/-- The document that has the name of the reference is the reference. -/
theorem eq_reference (h : made.ComesFrom fs root settings selection reference)
    {document : Document} (hmem : document ∈ selection.documents)
    (hname : document.name = made.reference) : document = reference :=
  List.inj_on_of_nodup_map h.nodup_names hmem h.reference_mem (hname.trans h.name_eq)

end Generation.ComesFrom

/-! ## What a generation tells about the files -/

/-- A generation tells about every file of a run: the files that take part give its documents, and
all others its first warnings. Behind these stand what is told about the entries of the reference:
one warning for each symbol that several of them have, and one for each whose symbol is no
identifier. -/
structure Generation.AccountsFor (made : Generation) (fs : FileSystem) (settings : Settings)
    (paths : List Path) (documents : List Document) (reference : Document) : Prop where
  paths_eq : made.documents.map DocumentSummary.path = fs.participants settings.maxDepth paths
  /-- No file is lost, and none is there twice. -/
  paths_perm : (made.documents.map DocumentSummary.path ++
    (fs.bystanders settings.maxDepth paths).map Prod.fst).Perm paths
  loaded : made.documents.map (fun summary =>
    Document.load fs summary.path settings.maxDepth) = documents.map .ok
  summaries_eq : made.documents.map (fun summary => (summary.name, summary.keyCount)) =
    documents.map fun document => (document.name, document.keyCount)
  names_eq : made.documents.map DocumentSummary.name =
    (made.documents.map DocumentSummary.path).map Path.documentName
  nodup_names : (made.documents.map DocumentSummary.name).Nodup
  reference_mem : reference ∈ documents
  reference_eq : made.reference = reference.name
  count_reference : (made.documents.map DocumentSummary.name).count made.reference = 1
  content_eq : made.messages.content = (Table.build documents).render settings.runtimePath
  localeNames_eq : (Table.build documents).localeNames = made.documents.map DocumentSummary.name
  /-- The locales that are read from the file of messages have the names of the documents, in
  order. -/
  localeNames_read : (Table.read? made.messages.content).map Table.localeNames =
    some (made.documents.map DocumentSummary.name)
  warnings_eq : made.warnings =
    (fs.bystanders settings.maxDepth paths).map (fun (path, reason) => .skipped path reason) ++
      ((collidingSymbols (reference.flatten settings.skipBranchKeys)).map fun symbol =>
        .collision ⟨symbol, keysOf (reference.flatten settings.skipBranchKeys) symbol⟩) ++
      ((reference.flatten settings.skipBranchKeys).filter fun entry =>
        !Text.isIdentifier entry.symbol).map .invalidSymbol

theorem FileSystem.participants_append_bystanders_perm (fs : FileSystem) (maxDepth : Nat)
    (paths : List Path) :
    (fs.participants maxDepth paths ++ (fs.bystanders maxDepth paths).map Prod.fst).Perm paths := by
  have hpaths : (withEarlier paths).map Prod.snd = paths := by
    simp [withEarlier, Function.comp_def]
  rw [participants, bystanders, List.map_map]
  conv => rhs; rw [← hpaths]
  -- each file stands on one of the two sides of the same test
  have hperm := (List.filter_append_perm
    (fun file : List Path × Path => fs.TakesPart maxDepth file.1 file.2)
    (withEarlier paths)).map Prod.snd
  rw [List.map_append] at hperm
  simpa [Function.comp_def] using hperm

/-- **Every generation tells about every file of its run.** -/
theorem exists_accountsFor {fs : FileSystem} {root : Path} {settings : Settings}
    {made : Generation} (h : generate fs root settings = .ok made) :
    ∃ paths documents reference,
      sourceFiles fs (root.join ⟨settings.sourceDir⟩) (settings.sourceFile.map Path.mk) =
        .ok paths ∧
      made.AccountsFor fs settings paths documents reference := by
  obtain ⟨selection, reference, hfrom⟩ := exists_comesFrom h
  obtain ⟨paths, -, hpaths, -, -⟩ := Selection.selectDocuments_eq_ok hfrom.selected
  have hcovers := Selection.covers_of_selectDocuments hpaths hfrom.selected
  have hnames := hfrom.summaryNames_eq
  have hnodup := hfrom.nodup_summaryNames
  have hchosen := hfrom.summaryPaths_eq hpaths
  have hlocales : (Table.build selection.documents).localeNames =
      made.documents.map DocumentSummary.name := by
    rw [Table.localeNames_build, ← hnames]
    exact Rows.eraseDups_eq_self hnodup
  obtain ⟨warnings, hcheck, hwarnings⟩ := hfrom.checked
  refine ⟨paths, selection.documents, reference, hpaths, hchosen, ?_, ?_, ?_, ?_, hnodup,
    hfrom.reference_mem, hfrom.name_eq, ?_, ?_, hlocales, ?_, ?_⟩
  · rw [hchosen]
    exact fs.participants_append_bystanders_perm settings.maxDepth paths
  · rw [hfrom.documents_eq, Selection.documents, List.map_map, List.map_map]
    exact List.map_congr_left hcovers.loaded
  · rw [hfrom.documents_eq, Selection.documents, List.map_map, List.map_map]
    rfl
  · rw [hfrom.documents_eq, List.map_map, List.map_map, List.map_map]
    apply List.map_congr_left
    intro chosen hmem
    simp only [Function.comp_apply, Chosen.summary]
    exact Document.name_of_load (hcovers.loaded chosen hmem)
  · apply List.count_eq_one_of_mem hnodup
    rw [hnames, hfrom.name_eq]
    exact List.mem_map_of_mem hfrom.reference_mem
  · rw [hfrom.messages_eq]
  · rw [hfrom.read?_messages, Option.map_some, hlocales]
  · rw [hwarnings, warnings_of_checkEntries hcheck, Selection.warnings, hcovers.skipped_eq,
      findCollisions_eq, List.map_map, List.append_assoc]
    rfl

/-- A file that holds no document, two files of one document name, and the file of a reference in
which one symbol is there twice and another is no identifier. -/
def mixedProject : FileSystem :=
  projectOf [("a.json", "\x7b"), ("b.json~", "\x7b\"k\":\"one\"\x7d"),
    ("b.json~.json", "\x7b\"k\":\"two\"\x7d"),
    ("c.json", "\x7b\"x\":\x7b\"y\":\"1\"\x7d,\"x_y\":\"2\",\"1\":\"3\"\x7d")]

/-- Settings whose reference stands behind other files. -/
def behindOthers : Settings :=
  { referenceLocale := some "c" }

theorem selectDocuments_mixedProject :
    selectDocuments mixedProject ⟨""⟩ behindOthers =
      Selection.addAll 3 0 {}
        (loadAll mixedProject (["a.json", "b.json~", "b.json~.json", "c.json"].map fun name =>
          Path.join ⟨"./messages"⟩ ⟨name⟩) behindOthers.maxDepth) := by
  apply Selection.selectDocuments_of_sorted
  · decide +kernel
  · rfl
  · decide +kernel
  · decide +kernel
  · decide +kernel
  · simp
  · decide +kernel

/-- Two files of four take part, and there are four warnings. -/
theorem accountsFor_mixedProject :
    ∃ made, generate mixedProject ⟨""⟩ behindOthers = .ok made ∧
      ∃ paths documents reference,
        sourceFiles mixedProject ((Path.mk "").join ⟨behindOthers.sourceDir⟩)
          (behindOthers.sourceFile.map Path.mk) = .ok paths ∧
        made.AccountsFor mixedProject behindOthers paths documents reference ∧
        made.documents.map DocumentSummary.name = ["b.json~", "c"] ∧
        made.warnings.length = 4 := by
  have hcheck : (match generate mixedProject ⟨""⟩ behindOthers with
      | .ok made => decide (made.documents.map DocumentSummary.name = ["b.json~", "c"] ∧
          made.warnings.length = 4)
      | .error _ => false) = true := by
    rw [generate, selectDocuments_mixedProject]
    decide +kernel
  cases hmade : generate mixedProject ⟨""⟩ behindOthers with
  | error e => simp [hmade] at hcheck
  | ok made =>
    rw [hmade] at hcheck
    have hfacts : made.documents.map DocumentSummary.name = ["b.json~", "c"] ∧
        made.warnings.length = 4 := of_decide_eq_true hcheck
    obtain ⟨paths, documents, reference, hpaths, haccounts⟩ := exists_accountsFor hmade
    exact ⟨made, rfl, paths, documents, reference, hpaths, haccounts, hfacts⟩

end MessageCatalog
