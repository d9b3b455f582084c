import MessageCatalog.Generation.Write
import MessageCatalog.Proofs.FileTree.Frame
import MessageCatalog.Proofs.Path

/-!
# Staging files

A file is staged in the directory of its target, under a name that is made from its own. Staging
writes to that name only and makes the directories above it; a write stages both files before it
renames the first.

## Main definitions

* `OutputFile.above` — the directories that are made for a file.
* `OutputFile.stagingName` — the name under which a file is staged.
* `Generation.keysMoved` — whether the constants are moved to their target.
* `Generation.StagesBoth` — whether both files can be staged.
* `Generation.BothStaged` — the tree in which both files are staged.

## Main results

* `OutputFile.stays_stage`: what staging a file leaves alone
* `OutputFile.stage_eq_ok`: a staged file is found at its staging path
* `OutputFile.slot?_stagingPath`: a file is staged beside its target
* `Generation.write_eq_ok`, `Generation.write_eq_error_cases`: the ways a write ends
-/

namespace MessageCatalog

open FileSystem

namespace OutputFile

/-- The directories that are made for a file, from the one it stands in up. -/
def above (file : OutputFile) : List Path :=
  (file.path.parent?.map Path.ancestors).getD []

theorem stays_makeParent (file : OutputFile) (fs : FileSystem) :
    fs.Stays [] file.above (file.makeParent fs).1 := by
  rw [makeParent, above]
  cases file.path.parent? with
  | none => exact .refl fs _ _
  | some parent =>
    have h := stays_createDirectories fs parent
    simp only [Option.map_some, Option.getD_some]
    split
    · next made hmade => rwa [hmade] at h
    · next made e hmade => rwa [hmade] at h

/-- **Staging a file** writes beside its target only, and makes the directories above it. -/
theorem stays_stage {file : OutputFile} {fs : FileSystem}
    (hlink : ¬ fs.NamesLink file.stagingPath) :
    fs.Stays [file.stagingPath] file.above (file.stage fs).1 := by
  have hparent := file.stays_makeParent fs
  have hmade : fs.Stays [file.stagingPath] file.above (file.makeParent fs).1 :=
    hparent.mono (List.nil_subset _) (List.Subset.refl _)
  rw [stage]
  split
  · next made e hrun => rwa [hrun] at hmade
  · next made hrun =>
    rw [hrun] at hparent hmade
    split
    · next written hwritten =>
      exact hmade.trans ((stays_writeFile hwritten).mono (List.Subset.refl _) (List.nil_subset _))
    · have hlink : ¬ made.NamesLink file.stagingPath := mt (hparent.namesLink_iff _).mp hlink
      exact hmade.trans ((stays_discard hlink).mono (List.Subset.refl _) (List.nil_subset _))

theorem staged_eq_of_stage_eq_ok {file : OutputFile} {fs fs' : FileSystem} {staged : Path}
    (h : file.stage fs = (fs', .ok staged)) : staged = file.stagingPath := by
  rw [stage] at h
  split at h
  · cases h
  · split at h
    · exact (Except.ok.inj (Prod.mk.inj h).2).symm
    · cases (Prod.mk.inj h).2

/-- **A file that is staged** is found at its staging path, and nothing else is written. -/
theorem stage_eq_ok {file : OutputFile} {fs fs' : FileSystem} {staged : Path}
    (h : file.stage fs = (fs', .ok staged)) :
    fs.Stays [file.stagingPath] file.above fs' ∧ file.stagingPath.flaw? = none ∧ ∃ place,
      Leads fs'.view maxLinks (fs'.start file.stagingPath) (Step.ofWholeText file.stagingPath.text)
        (.node place) ∧
      fs'.view place = some (.file file.content.toUTF8) := by
  have hparent := file.stays_makeParent fs
  rw [stage] at h
  split at h
  · cases h
  · next made hrun =>
    rw [hrun] at hparent
    split at h
    · next written hwritten =>
      obtain ⟨rfl, -⟩ := Prod.mk.inj h
      obtain ⟨place, hplace, hview⟩ := found_eq_some_iff.mp (found_of_writeFile_eq_ok hwritten)
      obtain ⟨hflaw, hleads⟩ := locate_eq_ok_iff.mp hplace
      exact ⟨(hparent.mono (List.nil_subset _) (List.Subset.refl _)).trans
        ((stays_writeFile hwritten).mono (List.Subset.refl _) (List.nil_subset _)),
        hflaw, place, hleads, hview⟩
    · cases (Prod.mk.inj h).2

/-! ## The name of a staged file -/

variable {file : OutputFile} {name : String} {slash : Bool}

/-- The name under which a file of some name is staged. -/
def stagingName (name : String) : String :=
  "." ++ name ++ ".tmp"

theorem toList_stagingName (name : String) :
    (stagingName name).toList = '.' :: (name.toList ++ ['.', 't', 'm', 'p']) := by
  simp [stagingName]

theorem stagingName_ne (name : String) : stagingName name ≠ name := by
  intro h
  have hlength := congrArg (fun text => text.toList.length) h
  simp only [toList_stagingName, List.length_cons, List.length_append, List.length_nil] at hlength
  omega

theorem stagingPath_eq (h : lastStep file.path = .name name slash) :
    file.stagingPath = file.path.withFileName (stagingName name) := by
  rw [stagingPath, Path.fileName?_of_lastStep h, Option.getD_some, stagingName]

theorem slash_not_mem_stagingName (h : lastStep file.path = .name name slash) :
    '/' ∉ (stagingName name).toList := by
  simp [toList_stagingName, Path.slash_not_mem_of_lastStep h]

theorem isIdle_stagingName (name : String) : Path.isIdle (stagingName name).toList = false := by
  simp [Path.isIdle, toList_stagingName]

theorem stagingName_ne_up (name : String) : (stagingName name).toList ≠ ['.', '.'] := by
  intro h
  have hlength := congrArg List.length h
  simp only [toList_stagingName, List.length_cons, List.length_append, List.length_nil] at hlength
  omega

theorem lastStep_stagingPath (h : lastStep file.path = .name name slash) :
    lastStep file.stagingPath = .name (stagingName name) false := by
  rw [stagingPath_eq h]
  exact Path.lastStep_withFileName (slash_not_mem_stagingName h) (isIdle_stagingName name)
    (stagingName_ne_up name) file.path

theorem start_stagingPath (h : lastStep file.path = .name name slash) (fs : FileSystem) :
    fs.start file.stagingPath = fs.start file.path := by
  rw [stagingPath_eq h, start, start,
    Path.isAbsolute_withFileName h (slash_not_mem_stagingName h) (isIdle_stagingName name)]

/-- **A file is staged beside its target**: in the same directory, under its own staging name. -/
theorem slot?_stagingPath (h : lastStep file.path = .name name slash) {fs : FileSystem}
    {directory : Place} (hentry : fs.slot? file.path = some (directory ++ [name])) :
    fs.slot? file.stagingPath = some (directory ++ [stagingName name]) := by
  obtain ⟨above, count, hsteps, hstaging⟩ := Path.ofText_withFileName h
    (slash_not_mem_stagingName h) (isIdle_stagingName name) (stagingName_ne_up name)
  rw [← stagingPath_eq h] at hstaging
  -- steps to the directory itself are all that the two paths differ in before their names
  have haim : aim fs.view maxLinks (fs.start file.path) above = some directory := by
    rw [slot?, h, hsteps, List.dropLast_concat, aim_append_idle (by simp)] at hentry
    obtain ⟨place, hplace, heq⟩ := Option.map_eq_some_iff.mp hentry
    rw [hplace, (List.append_inj' heq rfl).1]
  rw [slot?, lastStep_stagingPath h, hstaging, List.dropLast_concat, start_stagingPath h]
  simp [haim]

theorem isTooLong_of_stagingName (h : isTooLong (stagingName name) = false) :
    isTooLong name = false := by
  simp only [isTooLong, stagingName, String.utf8ByteSize_append, decide_eq_false_iff_not] at h ⊢
  omega

/-- **A staged file can be moved** to its target if a file can be moved there at all. -/
theorem exists_rename_eq_ok {fs : FileSystem} (htarget : fs.Replaceable file.path)
    (hflaw : file.stagingPath.flaw? = none) (hlink : ¬ fs.NamesLink file.stagingPath)
    {place : Place} {content : ByteArray}
    (hleads : Leads fs.view maxLinks (fs.start file.stagingPath)
      (Step.ofWholeText file.stagingPath.text) (.node place))
    (hplace : fs.view place = some (.file content)) :
    ∃ fs', fs.rename file.stagingPath file.path = .ok fs' := by
  obtain ⟨hflawTarget, ⟨name, hlast⟩, hreplaced⟩ := htarget
  have hstagedLast := lastStep_stagingPath hlast
  obtain ⟨above, count, hsteps, hstaging⟩ := Path.ofText_withFileName hlast
    (slash_not_mem_stagingName hlast) (isIdle_stagingName name) (stagingName_ne_up name)
  rw [← stagingPath_eq hlast] at hstaging
  obtain ⟨directory, left, hdirectory, hto, hfrom⟩ := exists_leads_entry hstagedLast hleads
  have hparent := locateParent_of_leads hflaw hdirectory hto
  -- the directory of the staged file is that of the target
  have htargetParent : fs.locateParent file.path = .ok directory := by
    refine locateParent_of_leads hflawTarget hdirectory ?_
    rw [hstaging, List.dropLast_concat, start_stagingPath hlast] at hto
    rw [hsteps, List.dropLast_concat]
    exact hto.append_idle rfl hdirectory (by simp)
  have haim :=
    (aim?_eq_of_not_namesLink hlink (slot?_eq_of_locateParent hparent hstagedLast)).2
  obtain rfl := Option.some.inj (hleads.aim_eq.symm.trans haim)
  -- the walk to the staged file has found its name short enough, and the target's is shorter
  have hshort : isTooLong (stagingName name) = false := by
    cases hfrom with
    | stay hstep => simp at hstep
    | follow _ hshort => exact hshort
    | enter _ hshort => exact hshort
  exact FileSystem.exists_rename_eq_ok hstagedLast hlast hparent htargetParent hshort
    (isTooLong_of_stagingName hshort) hplace (by simp)
    (hreplaced _ (slot?_eq_of_locateParent htargetParent hlast))

end OutputFile

/-! ## The ways a write ends -/

namespace Generation

/-- Whether the constants are moved to their target: both files can be staged and the first renaming
succeeds. -/
def keysMoved (generation : Generation) (fs : FileSystem) : Bool :=
  match generation.keys.stage fs with
  | (_, .error _) => false
  | (fs, .ok stagedKeys) =>
    match generation.messages.stage fs with
    | (_, .error _) => false
    | (fs, .ok _) => (generation.keys.commit stagedKeys fs).2.isOk

/-- Whether both files can be staged. -/
def StagesBoth (generation : Generation) (fs : FileSystem) : Prop :=
  ∃ one two, generation.keys.stage fs = (one, .ok generation.keys.stagingPath) ∧
    generation.messages.stage one = (two, .ok generation.messages.stagingPath)

instance (generation : Generation) (fs : FileSystem) : Decidable (generation.StagesBoth fs) :=
  decidable_of_iff
    ((generation.keys.stage fs).2.isOk = true ∧
      (generation.messages.stage (generation.keys.stage fs).1).2.isOk = true) <| by
    constructor
    · rintro ⟨hkeys, hmessages⟩
      cases hone : generation.keys.stage fs with
      | mk one staged =>
        rw [hone] at hkeys hmessages
        cases htwo : generation.messages.stage one with
        | mk two staged' =>
          rw [htwo] at hmessages
          cases staged with
          | error => cases hkeys
          | ok staged =>
            cases staged' with
            | error => cases hmessages
            | ok staged' =>
              obtain rfl := OutputFile.staged_eq_of_stage_eq_ok hone
              obtain rfl := OutputFile.staged_eq_of_stage_eq_ok htwo
              exact ⟨one, two, hone, htwo⟩
    · rintro ⟨one, two, hone, htwo⟩
      rw [hone, htwo]
      exact ⟨rfl, rfl⟩

variable {generation : Generation} {fs fs' : FileSystem}

theorem keysMoved_eq_true_iff :
    generation.keysMoved fs = true ↔ ∃ one two three,
      generation.keys.stage fs = (one, .ok generation.keys.stagingPath) ∧
      generation.messages.stage one = (two, .ok generation.messages.stagingPath) ∧
      two.rename generation.keys.stagingPath generation.keys.path = .ok three := by
  constructor
  · intro hmoved
    rw [keysMoved] at hmoved
    split at hmoved
    · cases hmoved
    next one stagedKeys hkeys =>
    obtain rfl := OutputFile.staged_eq_of_stage_eq_ok hkeys
    split at hmoved
    · cases hmoved
    next two stagedMessages hmessages =>
    obtain rfl := OutputFile.staged_eq_of_stage_eq_ok hmessages
    cases hrename : two.rename generation.keys.stagingPath generation.keys.path with
    | error e => simp [OutputFile.commit, hrename, Except.isOk, Except.toBool] at hmoved
    | ok three => exact ⟨one, two, three, hkeys, hmessages, hrename⟩
  · rintro ⟨one, two, three, hkeys, hmessages, hrename⟩
    simp [keysMoved, hkeys, hmessages, OutputFile.commit, hrename, Except.isOk, Except.toBool]

/-- A write that succeeds stages both files and moves both. -/
theorem write_eq_ok (h : generation.write fs = (fs', .ok ())) :
    ∃ one two three,
      generation.keys.stage fs = (one, .ok generation.keys.stagingPath) ∧
      generation.messages.stage one = (two, .ok generation.messages.stagingPath) ∧
      two.rename generation.keys.stagingPath generation.keys.path = .ok three ∧
      three.rename generation.messages.stagingPath generation.messages.path = .ok fs' := by
  rw [write] at h
  split at h
  · cases h
  next one stagedKeys hkeys =>
  obtain rfl := OutputFile.staged_eq_of_stage_eq_ok hkeys
  split at h
  · cases h
  next two stagedMessages hmessages =>
  obtain rfl := OutputFile.staged_eq_of_stage_eq_ok hmessages
  rw [commit] at h
  cases hfirst : two.rename generation.keys.stagingPath generation.keys.path with
  | error e => simp [OutputFile.commit, hfirst] at h
  | ok three =>
    cases hsecond : three.rename generation.messages.stagingPath generation.messages.path with
    | error e => simp [OutputFile.commit, hfirst, hsecond] at h
    | ok four =>
      simp only [OutputFile.commit, hfirst, hsecond] at h
      obtain ⟨rfl, -⟩ := Prod.mk.inj h
      exact ⟨one, two, three, hkeys, hmessages, hfirst, hsecond⟩

/-- A write fails while the constants are staged, while the messages are staged, at the first
renaming or at the second. -/
theorem write_eq_error_cases {e : WriteError} (h : generation.write fs = (fs', .error e)) :
    (generation.keysMoved fs = false ∧ generation.keys.stage fs = (fs', .error e)) ∨
    (∃ one two, generation.keysMoved fs = false ∧
      generation.keys.stage fs = (one, .ok generation.keys.stagingPath) ∧
      generation.messages.stage one = (two, .error e) ∧
      fs' = two.discard generation.keys.stagingPath) ∨
    (∃ one, generation.keysMoved fs = false ∧
      generation.keys.stage fs = (one, .ok generation.keys.stagingPath) ∧
      generation.messages.stage one = (fs', .ok generation.messages.stagingPath)) ∨
    (∃ one two, generation.keysMoved fs = true ∧
      generation.keys.stage fs = (one, .ok generation.keys.stagingPath) ∧
      generation.messages.stage one = (two, .ok generation.messages.stagingPath) ∧
      two.rename generation.keys.stagingPath generation.keys.path = .ok fs' ∧
      ∀ moved,
        fs'.rename generation.messages.stagingPath generation.messages.path ≠ .ok moved) := by
  rw [write] at h
  split at h
  · next one keysError hkeys =>
    obtain ⟨rfl, herror⟩ := Prod.mk.inj h
    obtain rfl := Except.error.inj herror
    exact .inl ⟨by simp [keysMoved, hkeys], hkeys⟩
  next one stagedKeys hkeys =>
  obtain rfl := OutputFile.staged_eq_of_stage_eq_ok hkeys
  split at h
  · next two messagesError hmessages =>
    obtain ⟨rfl, herror⟩ := Prod.mk.inj h
    obtain rfl := Except.error.inj herror
    exact .inr (.inl ⟨one, two, by simp [keysMoved, hkeys, hmessages], hkeys, hmessages, rfl⟩)
  next two stagedMessages hmessages =>
  obtain rfl := OutputFile.staged_eq_of_stage_eq_ok hmessages
  rw [commit] at h
  -- the first renaming decides whether the constants are moved
  cases hfirst : two.rename generation.keys.stagingPath generation.keys.path with
  | error renameError =>
    simp only [OutputFile.commit, hfirst] at h
    obtain ⟨rfl, -⟩ := Prod.mk.inj h
    refine .inr (.inr (.inl ⟨one, ?_, hkeys, hmessages⟩))
    simp [keysMoved, hkeys, hmessages, OutputFile.commit, hfirst, Except.isOk, Except.toBool]
  | ok three =>
    simp only [OutputFile.commit, hfirst] at h
    split at h
    · cases (Prod.mk.inj h).2
    · next hsecond =>
      obtain ⟨rfl, -⟩ := Prod.mk.inj h
      refine .inr (.inr (.inr ⟨one, two, ?_, hkeys, hmessages, hfirst, ?_⟩))
      · exact keysMoved_eq_true_iff.mpr ⟨one, two, _, hkeys, hmessages, hfirst⟩
      · simp [hsecond]

/-! ## Both files staged -/

/-- The paths that both files are staged at. -/
def stagingPaths (generation : Generation) : List Path :=
  [generation.keys.stagingPath, generation.messages.stagingPath]

/-- The directories that are made for both files. -/
def above (generation : Generation) : List Path :=
  generation.keys.above ++ generation.messages.above

/-- The tree in which both files are staged, and the places where they are. What is staged first is
lost only if both are staged in one place. -/
structure BothStaged (generation : Generation) (fs staged : FileSystem)
    (keysPlace messagesPlace : Place) : Prop where
  stays : fs.Stays generation.stagingPaths generation.above staged
  flaw?_keys : generation.keys.stagingPath.flaw? = none
  flaw?_messages : generation.messages.stagingPath.flaw? = none
  leads_keys : Leads staged.view maxLinks (staged.start generation.keys.stagingPath)
    (Step.ofWholeText generation.keys.stagingPath.text) (.node keysPlace)
  leads_messages : Leads staged.view maxLinks (staged.start generation.messages.stagingPath)
    (Step.ofWholeText generation.messages.stagingPath.text) (.node messagesPlace)
  view_keys : ∃ content, staged.view keysPlace = some (.file content) ∧
    (keysPlace ≠ messagesPlace → content = generation.keys.content.toUTF8)
  view_messages : staged.view messagesPlace =
    some (.file generation.messages.content.toUTF8)

theorem exists_bothStaged {one two : FileSystem} {stagedKeys stagedMessages : Path}
    (hkeys : generation.keys.stage fs = (one, .ok stagedKeys))
    (hmessages : generation.messages.stage one = (two, .ok stagedMessages)) :
    ∃ keysPlace messagesPlace, generation.BothStaged fs two keysPlace messagesPlace := by
  obtain ⟨hone, hflawKeys, place, hleads, hplace⟩ := OutputFile.stage_eq_ok hkeys
  obtain ⟨htwo, hflaw, place', hleads', hplace'⟩ := OutputFile.stage_eq_ok hmessages
  -- staging the messages overwrites the constants only at the same place
  have hview : ∃ content, two.view place = some (.file content) ∧
      (place ≠ place' → content = generation.keys.content.toUTF8) := by
    by_cases hsame : place = place'
    · exact ⟨_, hsame ▸ hplace', fun hne => absurd hsame hne⟩
    · have hother : ∀ p ∈ [generation.messages.stagingPath], one.aim? p ≠ some place := by
        rw [List.forall_mem_singleton, ← htwo.aim?_eq]
        exact fun haim => hsame (Option.some.inj (haim.symm.trans hleads'.aim_eq))
      exact ⟨_, htwo.view_eq_some hother hplace, fun _ => rfl⟩
  refine ⟨place, place', ?_, hflawKeys, hflaw, ?_, hleads', hview, hplace'⟩
  · refine (hone.mono ?_ ?_).trans (htwo.mono ?_ ?_) <;> simp [stagingPaths, above]
  · obtain ⟨content, hcontent, -⟩ := hview
    rw [htwo.start_eq]
    exact hleads.of_sameLinks htwo.sameLinks htwo.directories (by simp [Landing.place, hcontent])

/-- Constants that are staged apart from the messages are still there. -/
theorem BothStaged.view_keys_eq {staged : FileSystem} {place place' : Place}
    (h : generation.BothStaged fs staged place place')
    (hmeet : ¬ staged.Meet generation.keys.stagingPath generation.messages.stagingPath) :
    staged.view place = some (.file generation.keys.content.toUTF8) := by
  obtain ⟨content, hview, hkept⟩ := h.view_keys
  have hdiffer : place ≠ place' := by
    rintro rfl
    exact hmeet ⟨place, h.leads_keys.aim_eq, h.leads_messages.aim_eq⟩
  rw [hview, hkept hdiffer]

/-- Messages that are staged apart from the constants are still there when those are moved. -/
theorem BothStaged.messages_kept {staged moved : FileSystem} {place place' : Place}
    (h : generation.BothStaged fs staged place place')
    (hmoved : staged.Stays [generation.keys.stagingPath, generation.keys.path] [] moved)
    (hstaged : ¬ staged.Meet generation.keys.stagingPath generation.messages.stagingPath)
    (hkeys : ¬ staged.Meet generation.keys.path generation.messages.stagingPath) :
    moved.view place' = some (.file generation.messages.content.toUTF8) ∧
      Leads moved.view maxLinks (moved.start generation.messages.stagingPath)
        (Step.ofWholeText generation.messages.stagingPath.text) (.node place') := by
  -- moving the constants touches two places, and the messages are at neither
  have hother : ∀ p ∈ [generation.keys.stagingPath, generation.keys.path],
      staged.aim? p ≠ some place' := by
    intro p hp haim
    simp only [List.mem_cons, List.not_mem_nil, or_false] at hp
    rcases hp with rfl | rfl
    · exact hstaged ⟨place', haim, h.leads_messages.aim_eq⟩
    · exact hkeys ⟨place', haim, h.leads_messages.aim_eq⟩
  have hview : moved.view place' = some (.file generation.messages.content.toUTF8) :=
    hmoved.view_eq_some hother h.view_messages
  refine ⟨hview, ?_⟩
  rw [hmoved.start_eq]
  exact h.leads_messages.of_sameLinks hmoved.sameLinks hmoved.directories
    (by simp [Landing.place, hview])

end Generation

end MessageCatalog
