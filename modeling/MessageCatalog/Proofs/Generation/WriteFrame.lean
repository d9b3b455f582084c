import MessageCatalog.Proofs.FileTree.Above
import MessageCatalog.Proofs.Generation.FailedWrite
import MessageCatalog.Proofs.Generation.Regeneration

/-!
# What a write touches

Four paths belong to a write, and whichever way it ends, everything else is as it was, but for
directories that are made above the targets. A write that cannot stage both files has not touched
the targets and cleans up behind itself.

## Main definitions

* `Generation.Distinct` — the four paths are meant for four places.
* `Generation.Unrelated` — no path is an ancestor of another one.

## Main results

* `OutputFile.found_stagingPath_of_stage_eq_error`: a file that cannot be staged is not left behind
* `Generation.Unlinked.stays_write`: the frame of a write, whichever way it ends
* `Generation.effect_of_write`: what a write leaves at the four paths and everywhere else
-/

namespace MessageCatalog

open FileSystem

namespace OutputFile

variable {file : OutputFile} {fs fs' : FileSystem} {e : WriteError}

theorem slash_not_mem_stagingName_getD (file : OutputFile) :
    '/' ∉ (stagingName (file.path.fileName?.getD "")).toList := by
  have hslash : '/' ∉ (file.path.fileName?.getD "").toList := by
    cases hname : file.path.fileName? with
    | none => simp
    | some name => exact Path.slash_not_mem_of_fileName? hname
  simpa [toList_stagingName] using hslash

/-- The path that a file is staged at ends in a name, whatever its own path ends in. -/
theorem exists_lastStep_stagingPath (file : OutputFile) :
    ∃ name, lastStep file.stagingPath = .name name false :=
  ⟨_, Path.lastStep_withFileName file.slash_not_mem_stagingName_getD (isIdle_stagingName _)
    (stagingName_ne_up _) file.path⟩

/-- **Something staged stands in a directory**: the one that is made for it. -/
theorem isDirectory_of_found_stagingPath {parent : Path} (hparent : file.path.parent? = some parent)
    (hne : parent.text ≠ "") (hfound : fs.found file.stagingPath ≠ none) :
    fs.isDirectory parent = true := by
  have hslash := file.slash_not_mem_stagingName_getD
  have hidle := isIdle_stagingName (file.path.fileName?.getD "")
  have hup := stagingName_ne_up (file.path.fileName?.getD "")
  have hstaging : file.stagingPath =
      file.path.withFileName (stagingName (file.path.fileName?.getD "")) := rfl
  rw [hstaging, Path.withFileName] at hfound
  split at hfound
  · rw [hparent, Option.getD_some] at hfound
    exact isDirectory_of_found_join hne hslash hidle hup hfound
  · -- a path without a name is a directory itself, below the one that is made
    have habove := Path.isAbove_of_parent? hne hparent
    exact isDirectory_of_isAbove habove
      (isDirectory_of_found_join habove.text_ne_empty hslash hidle hup hfound)

theorem makeParent_eq_error (h : file.makeParent fs = (fs', .error e)) :
    ∃ parent error, file.path.parent? = some parent ∧
      fs.createDirectories parent = (fs', .error error) := by
  rw [makeParent] at h
  split at h
  · cases h
  next parent hparent =>
  split at h
  · cases h
  next made error hmade =>
  cases h
  exact ⟨parent, error, hparent, hmade⟩

/-- **A file that cannot be staged is not left behind**: no file is found where it was to be. -/
theorem found_stagingPath_of_stage_eq_error (hlink : ¬ fs.NamesLink file.stagingPath)
    (h : file.stage fs = (fs', .error e)) (content : ByteArray) :
    fs'.found file.stagingPath ≠ some (.file content) := by
  have hstays := file.stays_makeParent fs
  rw [stage] at h
  split at h
  · next made error hrun =>
    cases h
    -- the directory that could not be made would have to be there
    intro hfile
    obtain ⟨parent, other, hparent, hmade⟩ := makeParent_eq_error hrun
    have hfound : fs'.found file.stagingPath ≠ none := by simp [hfile]
    have hdirectory := isDirectory_of_found_stagingPath hparent
      (text_ne_empty_of_createDirectories hmade) hfound
    cases (not_isDirectory_of_createDirectories hmade).symm.trans hdirectory
  · next made hrun =>
    rw [hrun] at hstays
    split at h
    · cases h
    · cases h
      obtain ⟨name, hlast⟩ := file.exists_lastStep_stagingPath
      exact found_discard_ne_file hlast (mt (hstays.namesLink_iff _).mp hlink) content

/-- A file that cannot be staged brings no file to any place. -/
theorem view_file_of_stage_eq_error {place : Place} {content : ByteArray}
    (h : file.stage fs = (fs', .error e)) (hfile : fs'.view place = some (.file content)) :
    fs.view place = some (.file content) := by
  have hstays := file.stays_makeParent fs
  rw [stage] at h
  split at h
  · next made error hrun =>
    cases h
    rw [hrun] at hstays
    exact hstays.view_file_before (by simp) hfile
  · next made hrun =>
    rw [hrun] at hstays
    split at h
    · cases h
    · cases h
      exact hstays.view_file_before (by simp) (view_file_of_discard hfile)

end OutputFile

namespace Generation

variable {generation : Generation} {fs fs' : FileSystem} {result : Except WriteError Unit}

/-! ## The frame of a write -/

theorem keysMoved_eq_false_of_not_stagesBoth (h : ¬ generation.StagesBoth fs) :
    generation.keysMoved fs = false := by
  refine Bool.eq_false_iff.mpr fun hmoved => h ?_
  obtain ⟨one, two, three, hkeys, hmessages, -⟩ := keysMoved_eq_true_iff.mp hmoved
  exact ⟨one, two, hkeys, hmessages⟩

/-- A write that does not stage both files fails while it stages one of them. If those are the
messages, the constants were staged and are discarded. -/
theorem stage_cases_of_not_stagesBoth (h : ¬ generation.StagesBoth fs)
    (hwrite : generation.write fs = (fs', result)) : ∃ e, result = .error e ∧
      (generation.keys.stage fs = (fs', .error e) ∨
        ∃ one two, generation.keys.stage fs = (one, .ok generation.keys.stagingPath) ∧
          generation.messages.stage one = (two, .error e) ∧
          fs' = two.discard generation.keys.stagingPath) := by
  cases result with
  | ok =>
    obtain ⟨one, two, three, hkeys, hmessages, -⟩ := write_eq_ok hwrite
    exact absurd ⟨one, two, hkeys, hmessages⟩ h
  | error e =>
    refine ⟨e, rfl, ?_⟩
    rcases write_eq_error_cases hwrite with ⟨-, hkeys⟩ | ⟨one, two, -, hkeys, hmessages, hgone⟩ |
      ⟨one, -, hkeys, hmessages⟩ | ⟨one, two, -, hkeys, hmessages, -⟩
    · exact .inl hkeys
    · exact .inr ⟨one, two, hkeys, hmessages, hgone⟩
    · exact absurd ⟨one, fs', hkeys, hmessages⟩ h
    · exact absurd ⟨one, two, hkeys, hmessages⟩ h

/-- A path that a file is staged at names no link if none of the four does. -/
theorem Unlinked.staging (h : generation.Unlinked fs) :
    ∀ p ∈ generation.stagingPaths, ¬ fs.NamesLink p :=
  fun p hp => h p (by simp [hp])

/-- **The frame of a write**: whichever way it ends, it has written to the four paths only and made
directories above the targets. -/
theorem Unlinked.stays_write (h : generation.Unlinked fs)
    (hwrite : generation.write fs = (fs', result)) :
    fs.Stays generation.outputPaths generation.above fs' := by
  cases result with
  | ok => exact (settled_of_write h hwrite).stays
  | error e =>
    cases hmoved : generation.keysMoved fs with
    | false =>
      refine (stays_of_not_moved h.staging hwrite hmoved).mono ?_ (List.Subset.refl _)
      exact List.subset_append_right _ _
    | true =>
      rcases write_eq_error_cases hwrite with ⟨hfalse, -⟩ | ⟨one, two, hfalse, -⟩ |
        ⟨one, hfalse, -⟩ | ⟨one, two, -, hkeys, hmessages, hrename, -⟩
      iterate 3 cases hmoved.symm.trans hfalse
      -- the constants are at their target, and the messages are staged still
      obtain ⟨place, place', hboth⟩ := exists_bothStaged hkeys hmessages
      have hthree := (h.of_stays hboth.stays).stays_rename_keys hrename
      refine (hboth.stays.mono ?_ ?_).trans (hthree.mono ?_ ?_) <;>
        simp [outputPaths, targetPaths, stagingPaths]

/-! ## A write that does not stage both files -/

section NotStaged

variable (hlinks : generation.Unlinked fs) (hstages : ¬ generation.StagesBoth fs)
  (hwrite : generation.write fs = (fs', result))

include hlinks hstages hwrite

theorem stays_of_not_stagesBoth : fs.Stays generation.stagingPaths generation.above fs' := by
  obtain ⟨e, rfl, -⟩ := stage_cases_of_not_stagesBoth hstages hwrite
  exact stays_of_not_moved hlinks.staging hwrite (keysMoved_eq_false_of_not_stagesBoth hstages)

/-- No file is left where the constants are staged. -/
theorem found_stagingPath_of_not_stagesBoth (content : ByteArray) :
    fs'.found generation.keys.stagingPath ≠ some (.file content) := by
  have hkeysLink := hlinks.staging generation.keys.stagingPath (by simp [stagingPaths])
  obtain ⟨e, rfl, hkeys | ⟨one, two, hkeys, hmessages, rfl⟩⟩ :=
    stage_cases_of_not_stagesBoth hstages hwrite
  · exact OutputFile.found_stagingPath_of_stage_eq_error hkeysLink hkeys content
  · -- neither staging makes a link of the path at which the constants are discarded
    have hone := (OutputFile.stage_eq_ok hkeys).1
    have hmessagesLink := hlinks.staging generation.messages.stagingPath (by simp [stagingPaths])
    have htwo := OutputFile.stays_stage (mt (hone.namesLink_iff _).mp hmessagesLink)
    rw [hmessages] at htwo
    have hlink := mt (htwo.namesLink_iff _).mp (mt (hone.namesLink_iff _).mp hkeysLink)
    obtain ⟨name, hlast⟩ := generation.keys.exists_lastStep_stagingPath
    exact found_discard_ne_file hlast hlink content

omit hlinks in
/-- A file that is left anywhere but where the constants are staged was there before. -/
theorem view_file_of_not_stagesBoth {place : Place} {content : ByteArray}
    (hplace : fs.aim? generation.keys.stagingPath ≠ some place)
    (hfile : fs'.view place = some (.file content)) : fs.view place = some (.file content) := by
  obtain ⟨e, rfl, hkeys | ⟨one, two, hkeys, hmessages, rfl⟩⟩ :=
    stage_cases_of_not_stagesBoth hstages hwrite
  · exact OutputFile.view_file_of_stage_eq_error hkeys hfile
  · have hone := OutputFile.view_file_of_stage_eq_error hmessages (view_file_of_discard hfile)
    exact (OutputFile.stage_eq_ok hkeys).1.view_file_before (by simpa using hplace) hone

end NotStaged

/-! ## What a write leaves -/

/-- The four paths of a write are meant for four places. -/
def Distinct (generation : Generation) (fs : FileSystem) : Prop :=
  generation.outputPaths.Pairwise fun p q => ¬ fs.Meet p q

instance (generation : Generation) (fs : FileSystem) : Decidable (generation.Distinct fs) :=
  inferInstanceAs (Decidable (generation.outputPaths.Pairwise fun p q => ¬ fs.Meet p q))

theorem Distinct.not_meet (h : generation.Distinct fs) :
    (∀ p ∈ generation.targetPaths, ∀ q ∈ generation.stagingPaths, ¬ fs.Meet p q) ∧
      ¬ fs.Meet generation.keys.stagingPath generation.messages.stagingPath := by
  obtain ⟨-, hstaging, hacross⟩ := List.pairwise_append.mp h
  exact ⟨hacross, by simpa [stagingPaths] using hstaging⟩

theorem unlinked_of_no_links (h : ∀ place target, fs.view place ≠ some (.link target)) :
    generation.Unlinked fs := by
  intro p _ hlink
  obtain ⟨place, target, -, hview⟩ := namesLink_iff_exists.mp hlink
  exact h place target hview

/-- **What a write leaves**, in a tree without links and with four places for its four files.

Whichever way it ends, any other place holds what it held, or a directory that was made for a path
above a target where nothing was; and any other path that found something finds the same.

If it cannot stage both files, this is so at the targets too, no file is found where the constants
were to be staged, and a file where the messages were to be staged was there before.

If it succeeds, both contents are found at the targets and nothing is left where they were staged. -/
theorem effect_of_write (hlinks : ∀ place target, fs.view place ≠ some (.link target))
    (hdistinct : generation.Distinct fs) (hwrite : generation.write fs = (fs', result)) :
    ((∀ place, (∀ p ∈ generation.outputPaths, fs.aim? p ≠ some place) →
        fs.KeptOrMade generation.above fs' place) ∧
      ∀ p, (∀ q ∈ generation.outputPaths, ¬ fs.Meet p q) → fs.found p ≠ none →
        fs'.found p = fs.found p) ∧
    (¬ generation.StagesBoth fs →
      (∀ p ∈ generation.targetPaths, ∃ place, fs.aim? p = some place ∧
        fs.KeptOrMade generation.above fs' place) ∧
      (∀ content, fs'.found generation.keys.stagingPath ≠ some (.file content)) ∧
      ∃ place, fs.aim? generation.messages.stagingPath = some place ∧ ∀ content,
        fs'.view place = some (.file content) → fs.view place = some (.file content)) ∧
    (result = .ok () →
      (∀ file ∈ [generation.keys, generation.messages],
        fs'.found file.path = some (.file file.content.toUTF8)) ∧
      ∀ p ∈ generation.stagingPaths, ∃ place, fs.aim? p = some place ∧
        fs'.view place = none) := by
  have hunlinked : generation.Unlinked fs := unlinked_of_no_links hlinks
  have haim : ∀ p, ∃ place, fs.aim? p = some place := fun p =>
    exists_aim_of_no_links hlinks maxLinks (fs.start p) (Step.ofWholeText p.text)
  obtain ⟨hacross, hstaging⟩ := hdistinct.not_meet
  refine ⟨?_, ?_, ?_⟩
  · -- whatever a write does is in its frame
    have hstays := hunlinked.stays_write hwrite
    exact ⟨fun place hplace => hstays.keptOrMade hplace,
      fun p hp hfound => hstays.found_eq_of_ne_none hp hfound⟩
  · -- until both files are staged, only where they are staged is written to
    intro hstages
    refine ⟨?_, found_stagingPath_of_not_stagesBoth hunlinked hstages hwrite, ?_⟩
    · intro p hp
      obtain ⟨place, hplace⟩ := haim p
      refine ⟨place, hplace, (stays_of_not_stagesBoth hunlinked hstages hwrite).keptOrMade ?_⟩
      exact fun q hq hmeet => hacross p hp q hq ⟨place, hplace, hmeet⟩
    · obtain ⟨place, hplace⟩ := haim generation.messages.stagingPath
      refine ⟨place, hplace, fun content => view_file_of_not_stagesBoth hstages hwrite ?_⟩
      exact fun hmeet => hstaging ⟨place, hmeet, hplace⟩
  · -- both files are moved, and neither goes where the other is staged
    rintro rfl
    have hsettled := settled_of_write hunlinked hwrite
    have hkeys : ¬ fs.Meet generation.keys.path generation.messages.stagingPath :=
      hacross _ (by simp [targetPaths]) _ (by simp [stagingPaths])
    obtain ⟨hkeysRead, hmessagesRead⟩ := (readable_iff_not_meet hunlinked hwrite).mpr hkeys
    refine ⟨?_, ?_⟩
    · intro file hfile
      rcases List.mem_pair.mp hfile with rfl | rfl
      · exact readText_eq_ok_iff.mp hkeysRead
      · exact readText_eq_ok_iff.mp hmessagesRead
    · intro p hp
      obtain ⟨place, hplace⟩ := haim p
      refine ⟨place, hplace, hsettled.staged p hp place hplace ?_⟩
      exact fun q hq hmeet => hacross q hq p hp ⟨place, hmeet, hplace⟩

/-! ## Messages that cannot be staged -/

/-- A project with a directory where the messages are to be staged. -/
def jammedProject : FileSystem where
  root := .directory
    [("messages", .directory [("en.json", .file "\x7b\"a\":\"A\"\x7d".toUTF8)]),
      ("k", .file "old keys".toUTF8), (".k.tmp", .file "left over".toUTF8),
      (".m.tmp", .directory [])]
  workingDirectory := []

/-- Settings with the outputs beside the folder of the documents. -/
def besideMessages : Settings :=
  { sourceFile := some "en.json", outputDir := ".", keysFile := "k", messagesFile := "m" }

/-- A write that cannot stage the messages leaves the old constants, and takes away what was left
where they are staged. -/
theorem effect_of_write_jammedProject :
    (∀ place target, jammedProject.view place ≠ some (.link target)) ∧ ∃ made fs' e,
      generate jammedProject ⟨""⟩ besideMessages = .ok made ∧ made.Distinct jammedProject ∧
      made.write jammedProject = (fs', .error e) ∧
      (∀ place, (∀ p ∈ made.outputPaths, jammedProject.aim? p ≠ some place) →
        jammedProject.KeptOrMade made.above fs' place) ∧
      (∀ p ∈ made.targetPaths, ∃ place, jammedProject.aim? p = some place ∧
        jammedProject.KeptOrMade made.above fs' place) ∧
      ∀ content, fs'.found made.keys.stagingPath ≠ some (.file content) := by
  have hlinks : ∀ place target, jammedProject.view place ≠ some (.link target) :=
    view_ne_link (by decide +kernel)
  have hcheck : isOkAnd (generate jammedProject ⟨""⟩ besideMessages) (fun made =>
      made.Distinct jammedProject ∧ ¬ made.StagesBoth jammedProject) = true := by
    decide +kernel
  obtain ⟨made, hmade, hfacts⟩ := exists_of_isOkAnd hcheck
  obtain ⟨hdistinct, hstages⟩ := of_decide_eq_true hfacts
  refine ⟨hlinks, made, ?_⟩
  cases hwrite : made.write jammedProject with
  | mk fs' result =>
    obtain ⟨e, rfl, -⟩ := stage_cases_of_not_stagesBoth hstages hwrite
    obtain ⟨hframe, hfailed, -⟩ := effect_of_write hlinks hdistinct hwrite
    obtain ⟨htargets, hgone, -⟩ := hfailed hstages
    exact ⟨fs', e, hmade, hdistinct, rfl, hframe.1, htargets, hgone⟩

/-! ## A target above another one -/

/-- No path is an ancestor of another one, as it is written or as it is meant. -/
def Unrelated (fs : FileSystem) (paths : List Path) : Prop :=
  paths.Pairwise fun p q => (p ∉ q.ancestors ∧ q ∉ p.ancestors) ∧
    ∀ place ∈ fs.aim? p, ∀ other ∈ fs.aim? q, ¬ place <+: other ∧ ¬ other <+: place

instance (fs : FileSystem) (paths : List Path) : Decidable (Unrelated fs paths) :=
  inferInstanceAs (Decidable (paths.Pairwise fun p q => (p ∉ q.ancestors ∧ q ∉ p.ancestors) ∧
    ∀ place ∈ fs.aim? p, ∀ other ∈ fs.aim? q, ¬ place <+: other ∧ ¬ other <+: place))

/-- A project with a directory where the messages are to be staged, and nothing else beside the
documents. -/
def bareProject : FileSystem where
  root := .directory
    [("messages", .directory [("en.json", .file "\x7b\"a\":\"A\"\x7d".toUTF8)]),
      (".m.tmp", .directory [])]
  workingDirectory := []

/-- Settings with outputs whose directory is reached through the target of the constants. -/
def throughTarget : Settings :=
  { sourceFile := some "en.json", outputDir := "k/..", keysFile := "k", messagesFile := "m" }

/-- A write that fails while it stages makes a directory in the place of a target, if the other
target is written as a path through it. -/
theorem exists_target_made :
    throughTarget.flaw? = none ∧
    (∀ place target, bareProject.view place ≠ some (.link target)) ∧ ∃ made fs' e,
      generate bareProject ⟨""⟩ throughTarget = .ok made ∧ made.Distinct bareProject ∧
      Unrelated bareProject made.outputPaths ∧ ¬ made.StagesBoth bareProject ∧
      made.write bareProject = (fs', .error e) ∧
      bareProject.aim? made.keys.path = some ["k"] ∧ bareProject.view ["k"] = none ∧
      fs'.view ["k"] = some .directory := by
  have hcheck : isOkAnd (generate bareProject ⟨""⟩ throughTarget) (fun made =>
      made.Distinct bareProject ∧ Unrelated bareProject made.outputPaths ∧
        ¬ made.StagesBoth bareProject ∧ bareProject.aim? made.keys.path = some ["k"] ∧
        (made.write bareProject).1.view ["k"] = some .directory) = true := by
    decide +kernel
  obtain ⟨made, hmade, hfacts⟩ := exists_of_isOkAnd hcheck
  obtain ⟨hdistinct, hunrelated, hstages, haim, hview⟩ := of_decide_eq_true hfacts
  refine ⟨by decide +kernel, view_ne_link (by decide +kernel), made, ?_⟩
  cases hwrite : made.write bareProject with
  | mk fs' result =>
    obtain ⟨e, rfl, -⟩ := stage_cases_of_not_stagesBoth hstages hwrite
    rw [hwrite] at hview
    exact ⟨fs', e, hmade, hdistinct, hunrelated, hstages, rfl, haim, by decide +kernel, hview⟩

end Generation

end MessageCatalog
