import MessageCatalog.Proofs.FileTree.Plain
import MessageCatalog.Proofs.Generation.Fetching
import MessageCatalog.Proofs.Generation.FinishedWrite

/-!
# Running again after a write

A run reads a folder and some files in it, and a write makes directories, writes two files beside
their targets and moves them there. If none of the files that are read is one of the four, and the
targets are not taken for documents, the next run reads the same and makes the same.

## Main definitions

* `Generation.outputPaths` — the two targets, and where the files are staged.
* `Generation.Settled` — what a write that succeeds leaves.
* `Generation.LeavesSources` — neither target nor staged file is a source, or will be taken for one.

## Main results

* `Generation.settled_of_write`: a write that succeeds leaves its targets, and no staged files
* `Generation.sourceFiles_eq_ok_iff`: when a run has files to go through
* `Generation.sourceFiles_of_settled`: the next run goes through the same files
* `generate_of_write`: the next run makes the same generation
-/

namespace MessageCatalog

open FileSystem

namespace Generation

variable {made : Generation} {fs fs' : FileSystem} {folder : Path} {paths : List Path}

/-- The targets of a generation. -/
def targetPaths (made : Generation) : List Path :=
  [made.keys.path, made.messages.path]

/-- The paths that a generation is written to: its targets, and where the files are staged. -/
def outputPaths (made : Generation) : List Path :=
  made.targetPaths ++ made.stagingPaths

/-- What a write that succeeds leaves: its targets, but for one where the other file was staged, and
nothing where files were staged, but for a target. -/
structure Settled (made : Generation) (fs fs' : FileSystem) : Prop where
  stays : fs.Stays made.outputPaths made.above fs'
  target : ∀ p ∈ made.targetPaths, ∀ place, fs.aim? p = some place →
    (∀ q ∈ made.stagingPaths, fs.aim? q ≠ some place) → fs'.view place ≠ none
  staged : ∀ p ∈ made.stagingPaths, ∀ place, fs.aim? p = some place →
    (∀ q ∈ made.targetPaths, fs.aim? q ≠ some place) → fs'.view place = none

section Moves

variable {between : FileSystem} (h : made.Unlinked fs)
  (hfirst : fs.rename made.keys.stagingPath made.keys.path = .ok between)
  (hsecond : between.rename made.messages.stagingPath made.messages.path = .ok fs')

include h hfirst hsecond

/-- When both files are moved, each target is there, but for one where the other file was staged. -/
theorem view_target_of_renames {p : Path} (hp : p ∈ made.targetPaths) {place : Place}
    (hplace : fs.aim? p = some place) (hstaged : ∀ q ∈ made.stagingPaths, fs.aim? q ≠ some place) :
    fs'.view place ≠ none := by
  have hmoved := h.stays_rename_keys hfirst
  have hbetween := h.of_stays hmoved
  have hmoved' := hbetween.stays_rename_messages hsecond
  rcases List.mem_pair.mp hp with rfl | rfl
  · obtain ⟨-, htargets, -⟩ := h.not_meet_of_renames hfirst hsecond
    have hother : ∀ q ∈ [made.messages.stagingPath, made.messages.path],
        between.aim? q ≠ some place := by
      intro q hq hmeet
      rw [hmoved.aim?_eq] at hmeet
      rcases List.mem_pair.mp hq with rfl | rfl
      · exact hstaged _ (by simp [stagingPaths]) hmeet
      · exact htargets ⟨place, hplace, hmeet⟩
    rw [hmoved'.view_eq hother]
    exact view_target_of_rename (h _ (by simp)) hfirst hplace
  · exact view_target_of_rename (hbetween _ (by simp)) hsecond ((hmoved.aim?_eq _).trans hplace)

/-- When both files are moved, nothing is where one was staged, but for a target. -/
theorem view_staged_of_renames {p : Path} (hp : p ∈ made.stagingPaths) {place : Place}
    (hplace : fs.aim? p = some place) (htarget : ∀ q ∈ made.targetPaths, fs.aim? q ≠ some place) :
    fs'.view place = none := by
  have hmoved := h.stays_rename_keys hfirst
  have hbetween := h.of_stays hmoved
  have hmoved' := hbetween.stays_rename_messages hsecond
  obtain ⟨hstaged, -, hgone⟩ := h.not_meet_of_renames hfirst hsecond
  rcases List.mem_pair.mp hp with rfl | rfl
  · have hother : ∀ q ∈ [made.messages.stagingPath, made.messages.path],
        between.aim? q ≠ some place := by
      intro q hq hmeet
      rw [hmoved.aim?_eq] at hmeet
      rcases List.mem_pair.mp hq with rfl | rfl
      · exact hstaged ⟨place, hplace, hmeet⟩
      · exact htarget _ (by simp [targetPaths]) hmeet
    rw [hmoved'.view_eq hother]
    exact view_source_of_rename (h _ (by simp [stagingPaths])) (h _ (by simp)) hfirst hplace
      (htarget _ (by simp [targetPaths]))
  · exact hgone place hplace

end Moves

/-- **A write that succeeds leaves its targets, and no staged files.** -/
theorem settled_of_write (hlinks : made.Unlinked fs) (hwrite : made.write fs = (fs', .ok ())) :
    made.Settled fs fs' := by
  obtain ⟨one, two, three, hkeys, hmessages, hfirst, hsecond⟩ := write_eq_ok hwrite
  obtain ⟨staged, staged', hboth⟩ := exists_bothStaged hkeys hmessages
  have htwo := hlinks.of_stays hboth.stays
  have hmoved := htwo.stays_rename_keys hfirst
  have hmoved' := (htwo.of_stays hmoved).stays_rename_messages hsecond
  -- the tree in which both are staged has the aims of the first
  have haim : ∀ p, two.aim? p = fs.aim? p := hboth.stays.aim?_eq
  refine ⟨?_, ?_, ?_⟩
  · refine (hboth.stays.mono ?_ ?_).trans ((hmoved.mono ?_ ?_).trans (hmoved'.mono ?_ ?_)) <;>
      simp [outputPaths, targetPaths, stagingPaths]
  · intro p hp place hplace hstaged
    exact view_target_of_renames htwo hfirst hsecond hp ((haim p).trans hplace)
      fun q hq => by simpa only [haim] using hstaged q hq
  · intro p hp place hplace htarget
    exact view_staged_of_renames htwo hfirst hsecond hp ((haim p).trans hplace)
      fun q hq => by simpa only [haim] using htarget q hq

namespace Settled

/-- A path that finds something and where no file is staged leads to the same place. -/
theorem locate_eq (h : made.Settled fs fs') (hstaged : ∀ p ∈ made.stagingPaths, ¬ fs.Meet folder p)
    {place : Place} (hplace : fs.locate folder = .ok place) (hthere : fs.view place ≠ none) :
    fs'.locate folder = .ok place ∧ fs'.view place ≠ none := by
  obtain ⟨hflaw, hleads⟩ := locate_eq_ok_iff.mp hplace
  have hview : fs'.view place ≠ none := by
    by_cases htarget : ∃ p ∈ made.targetPaths, fs.aim? p = some place
    · obtain ⟨p, hp, haim⟩ := htarget
      exact h.target p hp place haim fun q hq hmeet => hstaged q hq ⟨place, hleads.aim_eq, hmeet⟩
    · -- none of the four files is there
      have hother : ∀ p ∈ made.outputPaths, fs.aim? p ≠ some place := by
        intro p hp haim
        rcases List.mem_append.mp hp with hp | hp
        · exact htarget ⟨p, hp, haim⟩
        · exact hstaged p hp ⟨place, hleads.aim_eq, haim⟩
      obtain ⟨kind, hkind⟩ := Option.ne_none_iff_exists'.mp hthere
      simp [h.stays.view_eq_some hother hkind]
  refine ⟨locate_eq_ok_iff.mpr ⟨hflaw, ?_⟩, hview⟩
  rw [h.stays.start_eq]
  exact hleads.of_sameLinks h.stays.sameLinks h.stays.directories hview

/-- A source that is none of the four files finds what it found before. -/
theorem found_eq (h : made.Settled fs fs') {source : Path}
    (hsource : ∀ p ∈ made.outputPaths, ¬ fs.Meet source p) (hfound : fs.found source ≠ none) :
    fs'.found source = fs.found source :=
  h.stays.found_eq_of_ne_none hsource hfound

end Settled

/-! ## The sources of the next run -/

/-- None of the four files that are written is a source, and a target that comes to stand in the
folder of the sources is not taken for a document there. -/
structure LeavesSources (made : Generation) (fs : FileSystem) (folder : Path)
    (paths : List Path) : Prop where
  sources : ∀ source ∈ paths, ∀ p ∈ made.outputPaths, ¬ fs.Meet source p
  targets : ∀ p ∈ made.targetPaths, ∀ name ∈ fs.nameIn? folder p, isDocumentFile name = false

instance : Decidable (made.LeavesSources fs folder paths) :=
  decidable_of_iff
    ((∀ source ∈ paths, ∀ p ∈ made.outputPaths, ¬ fs.Meet source p) ∧
      ∀ p ∈ made.targetPaths, ∀ name ∈ fs.nameIn? folder p, isDocumentFile name = false)
    ⟨fun h => ⟨h.1, h.2⟩, fun h => ⟨h.sources, h.targets⟩⟩

/-- **When a run has files**: its folder is there, and in it either the file that is asked for or any
documents. -/
theorem sourceFiles_eq_ok_iff {only : Option Path} :
    sourceFiles fs folder only = .ok paths ↔
      (∃ place kind, fs.locate folder = .ok place ∧ fs.view place = some kind) ∧
      ((∃ file content, only = some file ∧ fs.found (folder.join file) = some (.file content) ∧
          paths = [folder.join file]) ∨
        (only = none ∧ paths = fs.documentFiles folder ∧ paths ≠ [])) := by
  rw [← exists?_iff_exists_place]
  unfold sourceFiles
  constructor
  · intro h
    split at h
    · cases h
    next hexists =>
    refine ⟨by simpa using hexists, ?_⟩
    cases only with
    | some file =>
      simp only at h
      split at h
      · next hfile =>
        obtain ⟨content, hcontent⟩ := isFile_iff.mp hfile
        exact Or.inl ⟨file, content, rfl, hcontent, (Except.ok.inj h).symm⟩
      · cases h
    | none =>
      simp only at h
      split at h
      · cases h
      · next hfiles =>
        obtain rfl := Except.ok.inj h
        exact Or.inr ⟨rfl, rfl, by simpa using hfiles⟩
  · rintro ⟨hexists, ⟨file, content, rfl, hcontent, rfl⟩ | ⟨rfl, rfl, hne⟩⟩
    · simp [hexists, isFile_iff.mpr ⟨content, hcontent⟩]
    · simp [hexists, hne]

theorem mem_documentFiles {source : Path} :
    source ∈ fs.documentFiles folder ↔
      ∃ name ∈ fs.fileNames folder, isDocumentFile name = true ∧ folder.join ⟨name⟩ = source := by
  simp [documentFiles, and_assoc]

section Listing

variable {place : Place} {name : String} (hplain : fs.root.isPlain = true)
  (hleaves : made.LeavesSources fs folder (fs.documentFiles folder))
  (hplace : fs.locate folder = .ok place)

include hplain hleaves hplace in
/-- A document that is listed before a write is none of the four files. -/
theorem aim?_ne_of_listed (hname : name ∈ fs.root.filesIn place)
    (hdocument : isDocumentFile name = true) {p : Path} (hp : p ∈ made.outputPaths) :
    fs.aim? p ≠ some (place ++ [name]) := by
  intro haim
  have hsource : folder.join ⟨name⟩ ∈ fs.documentFiles folder :=
    mem_documentFiles.mpr ⟨name, (fileNames_eq hplace).symm ▸ hname, hdocument, rfl⟩
  have hentry : isEntryName name = true :=
    FileNode.isEntryName_of_kindAt hplain (FileNode.kindAt_ne_none_of_mem_filesIn hname)
  have hmeant : fs.aim? (folder.join ⟨name⟩) = some (place ++ [name]) :=
    aim?_join hplain hentry (text_ne_empty_of_locate hplace) (locate_eq_ok_iff.mp hplace).2.aim_eq
  exact hleaves.sources _ hsource p hp ⟨_, hmeant, haim⟩

include hleaves hplace in
/-- A document that is listed after a write is none of the four files either: the targets are no
documents, and the staged files are gone. -/
theorem aim?_ne_of_listed_after (hsettled : made.Settled fs fs')
    (hname : name ∈ fs'.root.filesIn place) (hdocument : isDocumentFile name = true) {p : Path}
    (hp : p ∈ made.outputPaths) : fs.aim? p ≠ some (place ++ [name]) := by
  have htarget : ∀ q ∈ made.targetPaths, fs.aim? q ≠ some (place ++ [name]) := by
    intro q hq haim
    have hno := hleaves.targets q hq name
      (nameIn?_eq (locate_eq_ok_iff.mp hplace).2.aim_eq haim)
    cases hno.symm.trans hdocument
  rcases List.mem_append.mp hp with hp | hp
  · exact htarget p hp
  · intro haim
    exact FileNode.kindAt_ne_none_of_mem_filesIn hname (hsettled.staged p hp _ haim htarget)

/-- Whether a name is that of a document that is none of the four files. -/
def isFreeDocument (made : Generation) (fs : FileSystem) (place : Place) (name : String) : Bool :=
  isDocumentFile name && made.outputPaths.all fun p => fs.aim? p != some (place ++ [name])

theorem isFreeDocument_eq (h : isDocumentFile name = true →
    ∀ p ∈ made.outputPaths, fs.aim? p ≠ some (place ++ [name])) :
    isDocumentFile name = made.isFreeDocument fs place name := by
  cases hdocument : isDocumentFile name with
  | false => simp [isFreeDocument, hdocument]
  | true => simpa [isFreeDocument, hdocument] using h hdocument

include hplain hleaves hplace in
/-- **The same documents are listed after a write.** -/
theorem filter_filesIn_of_settled (hsettled : made.Settled fs fs') :
    (fs'.root.filesIn place).filter isDocumentFile =
      (fs.root.filesIn place).filter isDocumentFile := by
  have hbefore : (fs.root.filesIn place).filter isDocumentFile =
      (fs.root.filesIn place).filter (made.isFreeDocument fs place) :=
    List.filter_congr fun name hname => isFreeDocument_eq fun hdocument p hp =>
      aim?_ne_of_listed hplain hleaves hplace hname hdocument hp
  have hafter : (fs'.root.filesIn place).filter isDocumentFile =
      (fs'.root.filesIn place).filter (made.isFreeDocument fs place) :=
    List.filter_congr fun name hname => isFreeDocument_eq fun hdocument p hp =>
      aim?_ne_of_listed_after hleaves hplace hsettled hname hdocument hp
  rw [hbefore, hafter]
  apply hsettled.stays.files
  intro name hfree p hp
  simp only [isFreeDocument, Bool.and_eq_true, List.all_eq_true, bne_iff_ne] at hfree
  exact hfree.2 p hp

end Listing

/-- **The next run goes through the same files.** -/
theorem sourceFiles_of_settled (hplain : fs.root.isPlain = true) (hsettled : made.Settled fs fs')
    {only : Option Path} (hpaths : sourceFiles fs folder only = .ok paths)
    (hleaves : made.LeavesSources fs folder paths)
    (hstaged : ∀ p ∈ made.stagingPaths, ¬ fs.Meet folder p) :
    sourceFiles fs' folder only = .ok paths := by
  obtain ⟨⟨place, kind, hplace, hkind⟩, hfiles⟩ := sourceFiles_eq_ok_iff.mp hpaths
  obtain ⟨hplace', hthere⟩ := hsettled.locate_eq hstaged hplace (by simp [hkind])
  obtain ⟨kind', hkind'⟩ := Option.ne_none_iff_exists'.mp hthere
  refine sourceFiles_eq_ok_iff.mpr ⟨⟨place, kind', hplace', hkind'⟩, ?_⟩
  rcases hfiles with ⟨file, content, rfl, hcontent, rfl⟩ | ⟨rfl, rfl, hne⟩
  · refine Or.inl ⟨file, content, rfl, ?_, rfl⟩
    rw [hsettled.found_eq (hleaves.sources _ (by simp)) (by simp [hcontent])]
    exact hcontent
  · have hsame : fs'.documentFiles folder = fs.documentFiles folder := by
      rw [documentFiles, documentFiles, fileNames_eq hplace, fileNames_eq hplace',
        filter_filesIn_of_settled hplain hleaves hplace hsettled]
    exact Or.inr ⟨rfl, hsame.symm, hne⟩

/-- A source finds something, unless nothing can be found at its path in any tree. -/
theorem flaw?_or_found_of_sourceFiles (hplain : fs.root.isPlain = true) {only : Option Path}
    (hpaths : sourceFiles fs folder only = .ok paths) {source : Path} (hsource : source ∈ paths) :
    (∃ e, source.flaw? = some e) ∨ fs.found source ≠ none := by
  obtain ⟨⟨place, kind, hplace, -⟩, hfiles⟩ := sourceFiles_eq_ok_iff.mp hpaths
  rcases hfiles with ⟨file, content, -, hcontent, rfl⟩ | ⟨-, rfl, -⟩
  · obtain rfl := List.mem_singleton.mp hsource
    exact Or.inr (by simp [hcontent])
  · obtain ⟨name, hname, -, rfl⟩ := mem_documentFiles.mp hsource
    rw [fileNames_eq hplace] at hname
    cases hflaw : (folder.join ⟨name⟩).flaw? with
    | some e => exact Or.inl ⟨e, rfl⟩
    | none =>
      obtain ⟨entry, hentry⟩ :=
        Option.ne_none_iff_exists'.mp (FileNode.kindAt_ne_none_of_mem_filesIn hname)
      refine Or.inr ?_
      rw [found_eq_some_iff.mpr ⟨_, locate_join hplain hplace hentry hflaw, hentry⟩]
      simp

/-- A document is loaded again after a write. -/
theorem load_of_settled (hplain : fs.root.isPlain = true) (hsettled : made.Settled fs fs')
    {only : Option Path} (hpaths : sourceFiles fs folder only = .ok paths)
    (hleaves : made.LeavesSources fs folder paths) {source : Path} (hsource : source ∈ paths)
    (maxDepth : Nat) : Document.load fs' source maxDepth = Document.load fs source maxDepth := by
  have hread : fs'.readText source = fs.readText source := by
    rcases flaw?_or_found_of_sourceFiles hplain hpaths hsource with ⟨e, hflaw⟩ | hfound
    · rw [readText_of_flaw hflaw, readText_of_flaw hflaw]
    · exact readText_eq_of_found
        (hsettled.found_eq (hleaves.sources source hsource) hfound) hfound
  rw [Document.load, Document.load, hread]

end Generation

/-- **The next run makes the same generation.** A write is not seen by it, as long as it touches
neither the sources nor what stands for their folder. -/
theorem generate_of_write {fs fs' : FileSystem} {root : Path} {settings : Settings}
    {made : Generation} {paths : List Path} (hplain : fs.root.isPlain = true)
    (hgenerate : generate fs root settings = .ok made)
    (hwrite : made.write fs = (fs', .ok ()))
    (hpaths : sourceFiles fs (root.join ⟨settings.sourceDir⟩) (settings.sourceFile.map Path.mk) =
      .ok paths)
    (hleaves : made.LeavesSources fs (root.join ⟨settings.sourceDir⟩) paths)
    (hstaged : ∀ p ∈ made.stagingPaths, ¬ fs.Meet (root.join ⟨settings.sourceDir⟩) p) :
    generate fs' root settings = .ok made := by
  have hsettled := Generation.settled_of_write (fun p _ => not_namesLink hplain p) hwrite
  have hpaths' := Generation.sourceFiles_of_settled hplain hsettled hpaths hleaves hstaged
  have hloaded : loadAll fs' paths settings.maxDepth = loadAll fs paths settings.maxDepth := by
    apply List.map_congr_left
    intro source hsource
    rw [Generation.load_of_settled hplain hsettled hpaths hleaves hsource]
  rw [← hgenerate, generate, generate, selectDocuments, selectDocuments, hpaths, hpaths']
  simp only [bind, Except.bind, hloaded]

/-- A folder of two documents with an old output between them and a file where the other output is
staged. -/
def crowdedProject : FileSystem :=
  projectOf [("keys.rs", "old"), ("de.json", "\x7b\"a\":\"A\"\x7d"), (".table.rs.tmp", ""),
    ("en.json", "\x7b\"a\":\"B\"\x7d")]

/-- Settings with the outputs in the folder of the documents. -/
def besideDocuments : Settings :=
  { outputDir := "messages", keysFile := "keys.rs", messagesFile := "table.rs" }

theorem sourceFiles_crowdedProject :
    sourceFiles crowdedProject ((Path.mk "").join ⟨besideDocuments.sourceDir⟩)
        (besideDocuments.sourceFile.map Path.mk) =
      .ok (["de.json", "en.json"].map fun name => Path.join ⟨"./messages"⟩ ⟨name⟩) := by
  apply sourceFiles_of_sorted
  · decide +kernel
  · decide +kernel
  · decide +kernel
  · simp

theorem selectDocuments_crowdedProject :
    selectDocuments crowdedProject ⟨""⟩ besideDocuments =
      Selection.addAll 0 0 {}
        (loadAll crowdedProject (["de.json", "en.json"].map fun name =>
          Path.join ⟨"./messages"⟩ ⟨name⟩) besideDocuments.maxDepth) := by
  apply Selection.selectDocuments_of_sorted
  · decide +kernel
  · rfl
  · decide +kernel
  · decide +kernel
  · decide +kernel
  · simp
  · rfl

/-- A run into the folder of its documents is made again after its write. -/
theorem generate_of_write_crowdedProject :
    crowdedProject.root.isPlain = true ∧ ∃ made fs' paths,
      generate crowdedProject ⟨""⟩ besideDocuments = .ok made ∧
      made.write crowdedProject = (fs', .ok ()) ∧
      sourceFiles crowdedProject ((Path.mk "").join ⟨besideDocuments.sourceDir⟩)
        (besideDocuments.sourceFile.map Path.mk) = .ok paths ∧
      made.LeavesSources crowdedProject ((Path.mk "").join ⟨besideDocuments.sourceDir⟩) paths ∧
      (∀ p ∈ made.stagingPaths,
        ¬ crowdedProject.Meet ((Path.mk "").join ⟨besideDocuments.sourceDir⟩) p) ∧
      generate fs' ⟨""⟩ besideDocuments = .ok made := by
  have hplain : crowdedProject.root.isPlain = true := by decide +kernel
  have hcheck : isOkAnd (generate crowdedProject ⟨""⟩ besideDocuments) (fun made =>
      (made.write crowdedProject).2.isOk = true ∧
        made.LeavesSources crowdedProject ((Path.mk "").join ⟨besideDocuments.sourceDir⟩)
          (["de.json", "en.json"].map fun name => Path.join ⟨"./messages"⟩ ⟨name⟩) ∧
        ∀ p ∈ made.stagingPaths,
          ¬ crowdedProject.Meet ((Path.mk "").join ⟨besideDocuments.sourceDir⟩) p) = true := by
    rw [generate, selectDocuments_crowdedProject]
    decide +kernel
  obtain ⟨made, hmade, hfacts⟩ := exists_of_isOkAnd hcheck
  obtain ⟨hok, hleaves, hstaged⟩ := of_decide_eq_true hfacts
  cases hwrite : made.write crowdedProject with
  | mk fs' result =>
    cases result with
    | error e => simp [hwrite, Except.isOk, Except.toBool] at hok
    | ok =>
      exact ⟨hplain, made, fs', _, hmade, hwrite, sourceFiles_crowdedProject, hleaves, hstaged,
        generate_of_write hplain hmade hwrite sourceFiles_crowdedProject hleaves hstaged⟩

/-! ## A folder that is no folder -/

/-- A project with a file that was left where the constants are staged. -/
def leftoverProject : FileSystem where
  root := .directory
    [("messages", .directory [("en.json", .file "\x7b\"a\":\"A\"\x7d".toUTF8)]),
      ("src", .directory [("generated", .directory [(".locale_keys.rs.tmp", .file "".toUTF8)])])]
  workingDirectory := []

/-- Settings with an absolute path for the document, so that the folder only has to be there. -/
def leftoverFolder : Settings :=
  { sourceDir := "src/generated/.locale_keys.rs.tmp", sourceFile := some "/messages/en.json" }

/-- A run is not made again if what stands for its folder is the file that was left: the write takes
it away. -/
theorem exists_not_generate_of_write :
    leftoverProject.root.isPlain = true ∧ ∃ made fs' paths,
      generate leftoverProject ⟨""⟩ leftoverFolder = .ok made ∧
      made.write leftoverProject = (fs', .ok ()) ∧
      sourceFiles leftoverProject ((Path.mk "").join ⟨leftoverFolder.sourceDir⟩)
        (leftoverFolder.sourceFile.map Path.mk) = .ok paths ∧
      made.LeavesSources leftoverProject ((Path.mk "").join ⟨leftoverFolder.sourceDir⟩) paths ∧
      generate fs' ⟨""⟩ leftoverFolder =
        .error (.folderMissing ⟨"src/generated/.locale_keys.rs.tmp"⟩) := by
  have hpaths : sourceFiles leftoverProject ((Path.mk "").join ⟨leftoverFolder.sourceDir⟩)
      (leftoverFolder.sourceFile.map Path.mk) = .ok [⟨"/messages/en.json"⟩] := by
    decide +kernel
  have hcheck : isOkAnd (generate leftoverProject ⟨""⟩ leftoverFolder) (fun made =>
      (made.write leftoverProject).2.isOk = true ∧
        made.LeavesSources leftoverProject ((Path.mk "").join ⟨leftoverFolder.sourceDir⟩)
          [⟨"/messages/en.json"⟩] ∧
        generate (made.write leftoverProject).1 ⟨""⟩ leftoverFolder =
          .error (.folderMissing ⟨"src/generated/.locale_keys.rs.tmp"⟩)) = true := by
    decide +kernel
  obtain ⟨made, hmade, hfacts⟩ := exists_of_isOkAnd hcheck
  obtain ⟨hok, hleaves, hagain⟩ := of_decide_eq_true hfacts
  refine ⟨by decide +kernel, ?_⟩
  cases hwrite : made.write leftoverProject with
  | mk fs' result =>
    cases result with
    | error e => simp [hwrite, Except.isOk, Except.toBool] at hok
    | ok =>
      rw [hwrite] at hagain
      exact ⟨made, fs', _, hmade, hwrite, hpaths, hleaves, hagain⟩

end MessageCatalog
