import MessageCatalog.Proofs.FileTree.Moves
import MessageCatalog.Proofs.Generation.Origin
import MessageCatalog.Proofs.Generation.Staging
import MessageCatalog.Settings.Validity

/-!
# Outputs after a write

A write that succeeds has moved both staged files to their targets. Whether both contents can be
read there afterwards depends on the names alone: one file may be staged where the other one goes.

## Main definitions

* `Generation.Readable` — both contents are read at their targets.

## Main results

* `Generation.readable_iff_of_write_eq_ok`: both contents are read exactly if both targets lead to
  files, and to different ones; without links at the four names, exactly if the constants do not go
  where the messages are staged
-/

namespace MessageCatalog

open FileSystem

namespace OutputFile

/-- **A staged file that is moved** goes to another name in the same directory. -/
theorem exists_moved_of_rename {file : OutputFile} {fs fs' : FileSystem}
    (h : fs.rename file.stagingPath file.path = .ok fs') :
    ∃ directory name, lastStep file.path = .name name false ∧
      fs.locateParent file.path = .ok directory ∧
      fs.locateParent file.stagingPath = .ok directory ∧
      fs'.workingDirectory = fs.workingDirectory ∧
      fs.view (directory ++ [stagingName name]) ≠ none ∧
      fs'.view (directory ++ [stagingName name]) = none ∧
      ((∀ links last, Leads fs.view links directory [.name (stagingName name)] (.node last) →
        fs.view last ≠ some .directory) →
        Moved fs.root fs'.root directory (stagingName name) name) := by
  obtain ⟨sourceDirectory, sourceName, directory, name, kind, between, hmoves⟩ := rename_eq_ok h
  have hlast := hmoves.target_last
  have hparent := hmoves.target_parent
  -- the file is staged in the directory that it is moved in, under its staging name
  obtain ⟨rfl, -⟩ :=
    LastStep.name.inj (hmoves.source_last.symm.trans (lastStep_stagingPath hlast))
  have hentry := slot?_stagingPath hlast hmoves.slot?_target
  rw [hmoves.slot?_source] at hentry
  obtain rfl := (List.append_inj' (Option.some.inj hentry) rfl).1
  refine ⟨sourceDirectory, name, hlast, hparent, hmoves.source_parent,
    hmoves.come.workingDirectory.trans hmoves.gone.workingDirectory, by simp [hmoves.there], ?_, ?_⟩
  · simp [hmoves.come.view, hmoves.gone.view, stagingName_ne]
  intro hleads
  refine ⟨?_, stagingName_ne name, hmoves.source_short, directory_of_locateParent hparent, ?_,
    hmoves.replaced, hleads⟩
  · intro place
    have hview := hmoves.come.view place
    rw [hmoves.gone.view, ← hmoves.there] at hview
    exact hview
  · rw [← view, hmoves.there]
    simpa using hmoves.leaf

end OutputFile

namespace Generation

variable {generation : Generation} {fs fs' : FileSystem}

/-- Whether both contents are read at their targets. -/
def Readable (generation : Generation) (fs : FileSystem) : Prop :=
  fs.readText generation.keys.path = .ok generation.keys.content ∧
    fs.readText generation.messages.path = .ok generation.messages.content

section Entry

variable {p : Path} {name : String} {parent : Place} {links : Nat} {last : Place}

/-- A walk after a move leads on from where the directory of its last name was before. -/
theorem leads_entry_after (hbefore : Moved.DirectoriesBefore fs.root fs'.root)
    (hcurrent : fs'.workingDirectory = fs.workingDirectory)
    (hlast : lastStep p = .name name false) (hparent : fs.locateParent p = .ok parent)
    (h : Leads fs'.view links (fs'.start p) (Step.ofWholeText p.text) (.node last)) :
    ∃ left, Leads fs'.view left parent [.name name] (.node last) := by
  obtain ⟨other, left, hdirectory, hto, hfrom⟩ := exists_leads_entry hlast h
  obtain ⟨-, hto⟩ := hbefore _ _ _ _ hdirectory hto
  have hstart : fs'.start p = fs.start p := by rw [start, start, hcurrent]
  rw [hstart] at hto
  obtain rfl := Landing.node.inj (hto.unique (leads_dropLast_of_locateParent hparent))
  exact ⟨left, hfrom⟩

/-- A walk before a move leads on from where the directory of its last name is after it. -/
theorem leads_entry_before (hbefore : Moved.DirectoriesBefore fs.root fs'.root)
    (hcurrent : fs'.workingDirectory = fs.workingDirectory)
    (hlast : lastStep p = .name name false) (hparent : fs'.locateParent p = .ok parent)
    (h : Leads fs.view links (fs.start p) (Step.ofWholeText p.text) (.node last)) :
    ∃ left, Leads fs.view left parent [.name name] (.node last) := by
  obtain ⟨other, left, -, hto, hfrom⟩ := exists_leads_entry hlast h
  obtain ⟨-, hparent⟩ := hbefore _ _ _ _ (directory_of_locateParent hparent)
    (leads_dropLast_of_locateParent hparent)
  have hstart : fs'.start p = fs.start p := by rw [start, start, hcurrent]
  rw [hstart] at hparent
  obtain rfl := Landing.node.inj (hto.unique hparent)
  exact ⟨left, hfrom⟩

end Entry

/-- **The constants are moved inside a directory** when both files are staged: they are there as a
file, so their entry leads to no directory. -/
theorem BothStaged.exists_moved {staged moved : FileSystem} {place place' : Place}
    (h : generation.BothStaged fs staged place place')
    (hrename : staged.rename generation.keys.stagingPath generation.keys.path = .ok moved) :
    ∃ directory name, lastStep generation.keys.path = .name name false ∧
      staged.locateParent generation.keys.path = .ok directory ∧
      moved.workingDirectory = staged.workingDirectory ∧
      moved.view (directory ++ [OutputFile.stagingName name]) = none ∧
      Moved staged.root moved.root directory (OutputFile.stagingName name) name ∧
      ∃ links, Leads staged.view links directory [.name (OutputFile.stagingName name)]
        (.node place) := by
  obtain ⟨content, hview, -⟩ := h.view_keys
  obtain ⟨directory, name, hlast, hparent, hstagedParent, hcurrent, -, hgone, hmoved⟩ :=
    OutputFile.exists_moved_of_rename hrename
  obtain ⟨links, hentry⟩ := leads_entry_of_locateParent hstagedParent
    (OutputFile.lastStep_stagingPath hlast) h.leads_keys
  refine ⟨directory, name, hlast, hparent, hcurrent, hgone, hmoved ?_, links, hentry⟩
  intro more last hmore
  obtain rfl := Landing.node.inj (hmore.unique hentry)
  simp [hview]

/-- **Both contents are read after a write** if both targets lead somewhere, and to different
places. -/
theorem readable_of_locate (hwrite : generation.write fs = (fs', .ok ())) {place place' : Place}
    (hplace : fs'.locate generation.keys.path = .ok place)
    (hplace' : fs'.locate generation.messages.path = .ok place') (hne : place ≠ place') :
    generation.Readable fs' := by
  obtain ⟨one, two, three, hkeys, hmessages, hfirst, hsecond⟩ := write_eq_ok hwrite
  obtain ⟨staged, staged', hboth⟩ := exists_bothStaged hkeys hmessages
  obtain ⟨content, hview, hkept⟩ := hboth.view_keys
  -- both renamings are moves inside a directory
  obtain ⟨directory, name, hlast, hparent, hcurrent, -, first, links, hentry⟩ :=
    hboth.exists_moved hfirst
  obtain ⟨directory', name', hlast', hparent', hstagedParent', hcurrent', hthere, -, hmoved'⟩ :=
    OutputFile.exists_moved_of_rename hsecond
  obtain ⟨links', hentry'⟩ := leads_entry_before first.directoriesBefore hcurrent
    (OutputFile.lastStep_stagingPath hlast') hstagedParent' hboth.leads_messages
  -- the entry of the messages leads to no directory, since these are where they were before
  have second := hmoved' fun more last hmore hdirectory => by
    obtain ⟨hdirectory, hbefore⟩ := first.directoriesBefore _ _ _ _ hdirectory hmore
    obtain rfl := Landing.node.inj (hbefore.unique hentry')
    cases hboth.view_messages.symm.trans hdirectory
  -- so are the walks to the targets
  obtain ⟨hflaw, hleads⟩ := locate_eq_ok_iff.mp hplace
  obtain ⟨hflaw', hleads'⟩ := locate_eq_ok_iff.mp hplace'
  obtain ⟨more, hend⟩ :=
    leads_entry_after (first.directoriesBefore.trans second.directoriesBefore)
      (hcurrent'.trans hcurrent) hlast hparent hleads
  obtain ⟨more', hend'⟩ :=
    leads_entry_after second.directoriesBefore hcurrent' hlast' hparent' hleads'
  obtain ⟨hfound, hfound', hdiffer⟩ :=
    Moved.view_both first second hthere hend hend' hne hentry hentry'
  obtain rfl := hkept hdiffer
  exact ⟨readText_eq_ok_iff.mpr (found_eq_some_iff.mpr ⟨place, hplace, hfound.trans hview⟩),
    readText_eq_ok_iff.mpr
      (found_eq_some_iff.mpr ⟨place', hplace', hfound'.trans hboth.view_messages⟩)⟩

/-- The two files of a generation begin differently. -/
theorem content_ne_of_generate {root : Path} {settings : Settings}
    (h : generate fs root settings = .ok generation) :
    generation.keys.content ≠ generation.messages.content := by
  obtain ⟨selection, reference, hfrom⟩ := exists_comesFrom h
  rw [hfrom.keys_eq, hfrom.messages_eq]
  -- both begin with the same line, and the one after it differs
  intro hsame
  have htexts := congrArg String.toList hsame
  simp only [Constants.render, Constants.head, Table.render, Table.head, String.append_assoc,
    String.toList_append, List.append_cancel_left_eq] at htexts
  simp at htexts

/-- Contents that differ are read in different places. -/
theorem locate_of_readable (hne : generation.keys.content ≠ generation.messages.content)
    (h : generation.Readable fs) :
    ∃ place place', fs.locate generation.keys.path = .ok place ∧
      fs.locate generation.messages.path = .ok place' ∧ place ≠ place' := by
  obtain ⟨place, hplace, hview⟩ := found_eq_some_iff.mp (readText_eq_ok_iff.mp h.1)
  obtain ⟨place', hplace', hview'⟩ := found_eq_some_iff.mp (readText_eq_ok_iff.mp h.2)
  refine ⟨place, place', hplace, hplace', ?_⟩
  -- one place holds one content
  rintro rfl
  have hbytes := Kind.file.inj (Option.some.inj (hview.symm.trans hview'))
  exact hne (String.toByteArray_inj.mp hbytes)

/-! ## Without links at the names -/

/-- Whether none of the four names is that of a link. -/
def Unlinked (generation : Generation) (fs : FileSystem) : Prop :=
  ∀ p ∈ generation.keys.path :: generation.messages.path :: generation.stagingPaths,
    ¬ fs.NamesLink p

theorem Unlinked.of_stays {written made : List Path} (h : generation.Unlinked fs)
    (hstays : fs.Stays written made fs') : generation.Unlinked fs' :=
  fun p hp => mt (hstays.namesLink_iff p).mp (h p hp)

theorem Unlinked.stays_rename_keys (h : generation.Unlinked fs)
    (hrename : fs.rename generation.keys.stagingPath generation.keys.path = .ok fs') :
    fs.Stays [generation.keys.stagingPath, generation.keys.path] [] fs' :=
  stays_rename (h _ (by simp [stagingPaths])) (h _ (by simp)) hrename

theorem Unlinked.stays_rename_messages (h : generation.Unlinked fs)
    (hrename : fs.rename generation.messages.stagingPath generation.messages.path = .ok fs') :
    fs.Stays [generation.messages.stagingPath, generation.messages.path] [] fs' :=
  stays_rename (h _ (by simp [stagingPaths])) (h _ (by simp)) hrename

/-- A staged file that is moved leaves the aim of its staging path for the aim of its target. -/
theorem aims_of_rename {file : OutputFile} (htarget : ¬ fs.NamesLink file.path)
    (hstaged : ¬ fs.NamesLink file.stagingPath)
    (h : fs.rename file.stagingPath file.path = .ok fs') :
    ∃ directory name, fs.aim? file.path = some (directory ++ [name]) ∧
      fs.aim? file.stagingPath = some (directory ++ [OutputFile.stagingName name]) ∧
      fs.view (directory ++ [OutputFile.stagingName name]) ≠ none ∧
      fs'.view (directory ++ [OutputFile.stagingName name]) = none := by
  obtain ⟨directory, name, hlast, hparent, hstagedParent, -, hthere, hgone, -⟩ :=
    OutputFile.exists_moved_of_rename h
  have hentry := slot?_eq_of_locateParent hparent hlast
  have hstagedEntry :=
    slot?_eq_of_locateParent hstagedParent (OutputFile.lastStep_stagingPath hlast)
  exact ⟨directory, name, (aim?_eq_of_not_namesLink htarget hentry).2,
    (aim?_eq_of_not_namesLink hstaged hstagedEntry).2, hthere, hgone⟩

/-- If both renamings succeed, the two files were staged in different places and go to different
places, and nothing is left where the messages were staged. -/
theorem Unlinked.not_meet_of_renames {between : FileSystem} (h : generation.Unlinked fs)
    (hfirst : fs.rename generation.keys.stagingPath generation.keys.path = .ok between)
    (hsecond : between.rename generation.messages.stagingPath generation.messages.path = .ok fs') :
    ¬ fs.Meet generation.keys.stagingPath generation.messages.stagingPath ∧
      ¬ fs.Meet generation.keys.path generation.messages.path ∧
      ∀ place, fs.aim? generation.messages.stagingPath = some place → fs'.view place = none := by
  have hstays := h.stays_rename_keys hfirst
  have hbetween := h.of_stays hstays
  obtain ⟨directory, name, haim, hstagedAim, -, hgone⟩ :=
    aims_of_rename (h _ (by simp)) (h _ (by simp [stagingPaths])) hfirst
  obtain ⟨directory', name', haim', hstagedAim', hthere, hgone'⟩ :=
    aims_of_rename (hbetween _ (by simp)) (hbetween _ (by simp [stagingPaths])) hsecond
  rw [hstays.aim?_eq] at haim' hstagedAim'
  -- the messages are still staged when the constants no longer are
  have hdiffer : directory ++ [OutputFile.stagingName name] ≠
      directory' ++ [OutputFile.stagingName name'] := fun hsame => hthere (hsame ▸ hgone)
  refine ⟨?_, ?_, ?_⟩
  · rintro ⟨place, hplace, hplace'⟩
    exact hdiffer (Option.some.inj ((hstagedAim.symm.trans hplace).trans
      (hplace'.symm.trans hstagedAim')))
  · -- targets at one place would have the same directory and name, and so would the staged files
    rintro ⟨place, hplace, hplace'⟩
    have hsame := Option.some.inj ((haim.symm.trans hplace).trans (hplace'.symm.trans haim'))
    obtain ⟨rfl, hname⟩ := List.append_inj' hsame rfl
    exact hdiffer (by rw [List.singleton_inj.mp hname])
  · intro place hplace
    obtain rfl := Option.some.inj (hstagedAim'.symm.trans hplace)
    exact hgone'

/-- **Without links at the four names** both contents are read after a write exactly if the
constants do not go where the messages are staged. -/
theorem readable_iff_not_meet (hlinks : generation.Unlinked fs)
    (hwrite : generation.write fs = (fs', .ok ())) :
    generation.Readable fs' ↔ ¬ fs.Meet generation.keys.path generation.messages.stagingPath := by
  obtain ⟨one, two, three, hkeys, hmessages, hfirst, hsecond⟩ := write_eq_ok hwrite
  obtain ⟨staged, staged', hboth⟩ := exists_bothStaged hkeys hmessages
  have htwo := hlinks.of_stays hboth.stays
  have hmoved := htwo.stays_rename_keys hfirst
  have hthree := htwo.of_stays hmoved
  have hmoved' := hthree.stays_rename_messages hsecond
  obtain ⟨hstaged, htargets, hgone⟩ := htwo.not_meet_of_renames hfirst hsecond
  rw [← hboth.stays.meet_iff]
  constructor
  · -- constants that go where the messages are staged leave with them
    rintro ⟨hread, -⟩ ⟨place, hplace, hplace'⟩
    obtain ⟨last, hlocate, hlast⟩ := found_eq_some_iff.mp (readText_eq_ok_iff.mp hread)
    have haim : fs'.aim? generation.keys.path = some last :=
      (locate_eq_ok_iff.mp hlocate).2.aim_eq
    rw [hmoved'.aim?_eq, hmoved.aim?_eq] at haim
    obtain rfl := Option.some.inj (haim.symm.trans hplace)
    cases (hgone last hplace').symm.trans hlast
  · -- otherwise the second renaming leaves the constants alone
    intro hmeet
    obtain ⟨hview, hleads⟩ := hboth.messages_kept hmoved hstaged hmeet
    have hfound : three.found generation.keys.path =
        some (.file generation.keys.content.toUTF8) :=
      found_of_rename_eq_ok (htwo _ (by simp [stagingPaths])) (htwo _ (by simp)) hfirst
        hboth.leads_keys.aim_eq (hboth.view_keys_eq hstaged)
    refine ⟨readText_eq_ok_iff.mpr ?_, readText_eq_ok_iff.mpr ?_⟩
    · rw [hmoved'.found_eq _ (by simp [hfound]) (by simp), hfound]
      simp [hmoved.meet_iff, hmeet, htargets]
    · exact found_of_rename_eq_ok (hthree _ (by simp [stagingPaths])) (hthree _ (by simp)) hsecond
        hleads.aim_eq hview

/-- **When both contents are read after a write that succeeds**: exactly if both targets lead
somewhere, and to different places. If none of the four names is that of a link, this is so exactly
if the constants do not go where the messages are staged. -/
theorem readable_iff_of_write_eq_ok {before : FileSystem} {root : Path} {settings : Settings}
    (hmade : generate before root settings = .ok generation)
    (hwrite : generation.write fs = (fs', .ok ())) :
    (generation.Readable fs' ↔ ∃ place place', fs'.locate generation.keys.path = .ok place ∧
      fs'.locate generation.messages.path = .ok place' ∧ place ≠ place') ∧
    (generation.Unlinked fs → (generation.Readable fs' ↔
      ¬ fs.Meet generation.keys.path generation.messages.stagingPath)) := by
  refine ⟨⟨locate_of_readable (content_ne_of_generate hmade), ?_⟩,
    fun hlinks => readable_iff_not_meet hlinks hwrite⟩
  rintro ⟨place, place', hplace, hplace', hne⟩
  exact readable_of_locate hwrite hplace hplace' hne

/-! ## Constants that go where the messages are staged -/

/-- A project with one message and no outputs. -/
def freshProject : FileSystem where
  root := .directory
    [("messages", .directory [("en.json", .file "\x7b\"a\":\"A\"\x7d".toUTF8)])]
  workingDirectory := []

/-- Settings with the name for the constants under which the messages are staged. -/
def sharedStagingName : Settings :=
  { sourceFile := some "en.json", outputDir := "out", keysFile := ".m.rs.tmp",
    messagesFile := "m.rs" }

instance (generation : Generation) (fs : FileSystem) : Decidable (generation.Unlinked fs) :=
  inferInstanceAs (Decidable (∀ p ∈ generation.keys.path :: generation.messages.path ::
    generation.stagingPaths, ¬ fs.NamesLink p))

theorem generate_freshProject :
    (match generate freshProject ⟨""⟩ sharedStagingName with
    | .ok made => decide (made.Unlinked freshProject ∧
        freshProject.Meet made.keys.path made.messages.stagingPath ∧
        (made.write freshProject).2.isOk = true)
    | .error _ => false) = true := by
  decide +kernel

/-- A write that succeeds loses a file if the constants go where the messages are staged. -/
theorem exists_not_readable_of_write_eq_ok :
    sharedStagingName.flaw? = none ∧ ∃ made fs',
      generate freshProject ⟨""⟩ sharedStagingName = .ok made ∧
      made.write freshProject = (fs', .ok ()) ∧ ¬ made.Readable fs' := by
  refine ⟨by decide +kernel, ?_⟩
  have hcheck := generate_freshProject
  split at hcheck
  · next made hmade =>
    obtain ⟨hunlinked, hmeet, hok⟩ := of_decide_eq_true hcheck
    cases hwrite : made.write freshProject with
    | mk fs' result =>
      cases result with
      | error e => simp [hwrite, Except.isOk, Except.toBool] at hok
      | ok =>
        refine ⟨made, fs', hmade, hwrite, fun hread => ?_⟩
        exact ((readable_iff_of_write_eq_ok hmade hwrite).2 hunlinked).mp hread hmeet
  · cases hcheck

end Generation

end MessageCatalog
