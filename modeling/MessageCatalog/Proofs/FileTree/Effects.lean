import MessageCatalog.FileTree.Operations
import MessageCatalog.Proofs.FileTree.Listing
import MessageCatalog.Proofs.FileTree.Resolution

/-!
# What the operations do to a view

Every operation that succeeds changes what is at one place, or at two for a renaming; the place is
named by its path or is the aim of it. Directories stay directories under all of them.

## Main definitions

* `FileSystem.aim?` — the place that a path is meant for.
* `FileSystem.slot?` — the place of the entry that a path names, where a link is not followed.
* `FileSystem.ChangesAt` — one file system differs from another at one place at most.
* `FileSystem.Moves` — a file or link is moved from one entry to another.

## Main results

* `FileSystem.createDirectory_eq_ok`, `writeFile_eq_ok`, `removeFile_eq_ok`, `rename_eq_ok`: the
  places that a successful operation changes
-/

namespace MessageCatalog.FileSystem

/-- What is at every place of a file system. -/
def view (fs : FileSystem) : View :=
  fs.root.kindAt

/-- The place that a path is meant for, if its links can be followed. -/
def aim? (fs : FileSystem) (p : Path) : Option Place :=
  aim fs.view maxLinks (fs.start p) (Step.ofWholeText p.text)

/-- The place of the entry that a path names; a link there is not followed. -/
def slot? (fs : FileSystem) (p : Path) : Option Place :=
  match lastStep p with
  | .name name _ =>
    (aim fs.view maxLinks (fs.start p) (Step.ofText p.text).dropLast).map fun directory =>
      directory ++ [name]
  | .unnamed => none

/-- Two file systems differ at most in what is at a place, which was no directory before. -/
structure ChangesAt (fs : FileSystem) (place : Place) (kind : Option Kind) (fs' : FileSystem) :
    Prop where
  workingDirectory : fs'.workingDirectory = fs.workingDirectory
  view : ∀ other, fs'.view other = if other = place then kind else fs.view other
  before : fs.view place ≠ some .directory
  listing : ∀ directory name, place = directory ++ [name] →
    fs'.root.listing directory = match kind with
      | some kind => Rows.set name kind (fs.root.listing directory)
      | none => Rows.remove name (fs.root.listing directory)
  elsewhere : ∀ directory, (∀ name, place ≠ directory ++ [name]) →
    fs'.root.listing directory = fs.root.listing directory

/-- A file or link is moved: it is taken from its entry in one directory and put into an entry of
another, over what is there if that is no directory. -/
structure Moves (fs : FileSystem) (source target : Path) (sourceDirectory : Place)
    (sourceName : String) (targetDirectory : Place) (targetName : String) (kind : Kind)
    (between fs' : FileSystem) : Prop where
  source_last : lastStep source = .name sourceName false
  target_last : lastStep target = .name targetName false
  source_parent : fs.locateParent source = .ok sourceDirectory
  target_parent : fs.locateParent target = .ok targetDirectory
  source_short : isTooLong sourceName = false
  target_short : isTooLong targetName = false
  leaf : kind ≠ .directory
  replaced : fs.view (targetDirectory ++ [targetName]) ≠ some .directory
  there : fs.view (sourceDirectory ++ [sourceName]) = some kind
  gone : fs.ChangesAt (sourceDirectory ++ [sourceName]) none between
  come : between.ChangesAt (targetDirectory ++ [targetName]) (some kind) fs'

/-! ## The last step of a path -/

theorem ofText_eq_of_lastStep {p : Path} {name : String} {slash : Bool}
    (h : lastStep p = .name name slash) :
    Step.ofText p.text = (Step.ofText p.text).dropLast ++ [.name name] := by
  rw [lastStep] at h
  split at h
  · next other hlast =>
    obtain ⟨rfl, -⟩ := LastStep.name.inj h
    obtain ⟨steps, hsteps⟩ := List.getLast?_eq_some_iff.mp hlast
    rw [hsteps, List.dropLast_concat]
  · cases h

theorem ofWholeText_eq_of_lastStep {p : Path} {name : String} (h : lastStep p = .name name false) :
    Step.ofWholeText p.text = Step.ofText p.text := by
  rw [lastStep] at h
  split at h
  · obtain ⟨-, hslash⟩ := LastStep.name.inj h
    have hslash : p.text.toList.getLast? ≠ some '/' := by simpa using hslash
    rw [Step.ofWholeText, if_neg hslash, List.append_nil]
  · cases h

theorem ofWholeText_idle (text : String) :
    ∃ idle, Step.ofWholeText text = Step.ofText text ++ idle ∧
      ∀ step ∈ idle, step = .here ∨ step = .slash := by
  refine ⟨_, rfl, ?_⟩
  intro step hstep
  split at hstep
  · exact .inr (List.mem_singleton.mp hstep)
  · cases hstep

/-- Without the step for a slash behind it, a path leads to the same place. -/
theorem leads_ofText {v : View} {links : Nat} {place last : Place} {text : String}
    (h : Leads v links place (Step.ofWholeText text) (.node last)) :
    Leads v links place (Step.ofText text) (.node last) := by
  rw [Step.ofWholeText] at h
  split at h
  · obtain ⟨directory, left, -, -, hto, hfrom⟩ := h.exists_of_append (by simp)
    cases hfrom with
    | stay _ _ hrest =>
      cases hrest
      exact hto
  · rwa [List.append_nil] at h

variable {fs fs' : FileSystem} {p : Path}

/-- An entry that is no link is the aim of the paths that name it. -/
theorem aim?_eq_of_slot? {place : Place} (h : fs.slot? p = some place)
    (hlink : ∀ target, fs.view place ≠ some (.link target)) : fs.aim? p = some place := by
  rw [slot?] at h
  split at h
  · next name slash hlast =>
    obtain ⟨directory, hdirectory, rfl⟩ := Option.map_eq_some_iff.mp h
    obtain ⟨idle, htext, hidle⟩ := ofWholeText_idle p.text
    rw [aim?, htext, aim_append_idle hidle, ofText_eq_of_lastStep hlast]
    exact aim_concat hdirectory hlink
  · cases h

/-! ## The directory of an entry -/

theorem leads_of_locateParent {directory : Place} (h : fs.locateParent p = .ok directory) :
    Leads fs.view maxLinks (fs.start p) ((Step.ofText p.text).dropLast ++ [.here])
      (.node directory) := by
  rw [locateParent] at h
  split at h
  · cases h
  split at h
  · next place hwalk =>
    obtain rfl := Except.ok.inj h
    exact FileNode.leads_of_walk hwalk
  · cases h
  · cases h

theorem locateParent_of_leads (hflaw : p.flaw? = none) {directory : Place}
    (hdirectory : fs.view directory = some .directory)
    (h : Leads fs.view maxLinks (fs.start p) (Step.ofText p.text).dropLast (.node directory)) :
    fs.locateParent p = .ok directory := by
  -- the directory itself is asked for, so that the walk fails at anything else
  have hhere : Leads fs.view maxLinks (fs.start p) ((Step.ofText p.text).dropLast ++ [.here])
      (.node directory) := h.append_idle rfl hdirectory (by simp)
  rw [locateParent, hflaw]
  simp only
  rw [FileNode.walk_of_leads hhere]

theorem directory_of_locateParent {directory : Place} (h : fs.locateParent p = .ok directory) :
    fs.view directory = some .directory := by
  obtain ⟨place, hplace, hkind⟩ := (leads_of_locateParent h).directory_of_getLast (by simp)
  obtain rfl := Landing.node.inj hplace
  exact hkind

theorem flaw?_of_locateParent {directory : Place} (h : fs.locateParent p = .ok directory) :
    p.flaw? = none := by
  rw [locateParent] at h
  split at h
  · cases h
  · assumption

/-- The directory of an entry is where the steps before the last one lead. -/
theorem leads_dropLast_of_locateParent {directory : Place}
    (h : fs.locateParent p = .ok directory) :
    Leads fs.view maxLinks (fs.start p) (Step.ofText p.text).dropLast (.node directory) := by
  obtain ⟨place, left, -, -, hto, hfrom⟩ := (leads_of_locateParent h).exists_of_append (by simp)
  cases hfrom with
  | stay _ _ hrest =>
    cases hrest
    exact hto

/-- A walk along a path that ends in a name passes through the directory of its entry. -/
theorem exists_leads_entry {v : View} {links : Nat} {place : Place} {name : String}
    {landing : Landing} (hlast : lastStep p = .name name false)
    (h : Leads v links place (Step.ofWholeText p.text) landing) :
    ∃ directory left, v directory = some .directory ∧
      Leads v links place (Step.ofText p.text).dropLast (.node directory) ∧
      Leads v left directory [.name name] landing := by
  rw [ofWholeText_eq_of_lastStep hlast, ofText_eq_of_lastStep hlast] at h
  obtain ⟨directory, left, -, hdirectory, hto, hfrom⟩ := h.exists_of_append (by simp)
  exact ⟨directory, left, hdirectory, hto, hfrom⟩

/-- A walk along a path leads on from the directory of its entry. -/
theorem leads_entry_of_locateParent {name : String} {directory : Place} {links : Nat}
    {landing : Landing} (hparent : fs.locateParent p = .ok directory)
    (hlast : lastStep p = .name name false)
    (h : Leads fs.view links (fs.start p) (Step.ofWholeText p.text) landing) :
    ∃ left, Leads fs.view left directory [.name name] landing := by
  obtain ⟨other, left, -, hto, hfrom⟩ := exists_leads_entry hlast h
  obtain rfl := Landing.node.inj (hto.unique (leads_dropLast_of_locateParent hparent))
  exact ⟨left, hfrom⟩

theorem slot?_eq_of_locateParent {directory : Place} (h : fs.locateParent p = .ok directory)
    {name : String} {slash : Bool} (hlast : lastStep p = .name name slash) :
    fs.slot? p = some (directory ++ [name]) := by
  have haim := (leads_of_locateParent h).aim_eq
  rw [aim_append_idle (by simp)] at haim
  simp [slot?, hlast, haim, Landing.place]

theorem get?_of_lookUp {directory : Place} {name : String} {entry : Option FileNode}
    (h : fs.lookUp directory name = .ok entry) :
    isTooLong name = false ∧ fs.root.get? (directory ++ [name]) = entry := by
  rw [lookUp] at h
  split at h
  · cases h
  · next hshort => exact ⟨by simpa using hshort, Except.ok.inj h⟩

/-! ## The changes -/

theorem changesAt_put {directory : Place} {name : String} {node : FileNode} (hnode : node.IsBare)
    (hdirectory : fs.view directory = some .directory)
    (hold : fs.view (directory ++ [name]) ≠ some .directory) :
    fs.ChangesAt (directory ++ [name]) (some node.kind) (fs.put (directory ++ [name]) node) where
  workingDirectory := rfl
  view := FileNode.kindAt_put hnode hdirectory hold
  before := hold
  listing := (FileNode.listing_of_change (f := fun name => Rows.set name node.kind)
    (FileNode.listing_put hnode hdirectory hold)).1
  elsewhere := (FileNode.listing_of_change (f := fun name => Rows.set name node.kind)
    (FileNode.listing_put hnode hdirectory hold)).2

theorem changesAt_put_of_ne_none {place : Place} {node : FileNode} (hnode : node.IsBare)
    (hnone : fs.view place ≠ none) (hold : fs.view place ≠ some .directory) :
    fs.ChangesAt place (some node.kind) (fs.put place node) := by
  rcases List.eq_nil_or_concat place with rfl | ⟨directory, name, rfl⟩
  · refine ⟨rfl, FileNode.kindAt_put_of_ne_none hnode hnone hold, hold, by simp, ?_⟩
    -- neither the old root nor the new one is a directory with entries
    intro directory _
    have hroot : (fs.put [] node).root = node := by simp [put, FileNode.put]
    rw [hroot, hnode.listing_eq_nil]
    exact (FileNode.listing_append_of_ne_directory hold directory).symm
  · rw [List.concat_eq_append] at *
    exact changesAt_put hnode (FileNode.kindAt_concat_ne_none hnone) hold

theorem ChangesAt.sameLinks {place : Place} {kind : Option Kind} (h : fs.ChangesAt place kind fs')
    (hbefore : ∀ target, fs.view place ≠ some (.link target))
    (hkind : ∀ target, kind ≠ some (.link target)) : SameLinks fs.view fs'.view := by
  intro other target
  rw [h.view]
  split
  · next hother => simp [hother, hbefore, hkind]
  · exact Iff.rfl

theorem ChangesAt.view_directory {place : Place} {kind : Option Kind}
    (h : fs.ChangesAt place kind fs') {other : Place} (hother : fs.view other = some .directory) :
    fs'.view other = some .directory := by
  rw [h.view, if_neg, hother]
  rintro rfl
  exact h.before hother

theorem ChangesAt.start_eq {place : Place} {kind : Option Kind} (h : fs.ChangesAt place kind fs')
    (p : Path) : fs'.start p = fs.start p := by
  rw [start, start, h.workingDirectory]

/-- Files of other names are listed as before. -/
theorem ChangesAt.filter_filesIn {place : Place} {kind : Option Kind}
    (h : fs.ChangesAt place kind fs') {directory : Place} {keep : String → Bool}
    (hkeep : ∀ name, place = directory ++ [name] → keep name = false) :
    (fs'.root.filesIn directory).filter keep = (fs.root.filesIn directory).filter keep := by
  rw [FileNode.filesIn, FileNode.filesIn, List.filter_map, List.filter_map, List.filter_filter,
    List.filter_filter]
  by_cases hplace : ∃ name, place = directory ++ [name]
  · obtain ⟨name, hname⟩ := hplace
    have hrow : ∀ value : Kind,
        ((keep ∘ Prod.fst) (name, value) && (name, value).2.isFile) = false := by
      simp [hkeep name hname]
    rw [h.listing directory name hname]
    cases kind with
    | none => rw [Rows.filter_remove hrow]
    | some kind => rw [Rows.filter_set hrow]
  · rw [h.elsewhere directory (not_exists.mp hplace)]

/-- A directory that is made where nothing was is no file. -/
theorem ChangesAt.filesIn_eq {place : Place} (h : fs.ChangesAt place (some .directory) fs')
    (hnone : fs.view place = none) (directory : Place) :
    fs'.root.filesIn directory = fs.root.filesIn directory := by
  by_cases hplace : ∃ name, place = directory ++ [name]
  · obtain ⟨name, rfl⟩ := hplace
    have hnew : Rows.get? name (fs.root.listing directory) = none := by
      rw [FileNode.get?_listing]
      exact hnone
    rw [FileNode.filesIn, FileNode.filesIn, h.listing directory name rfl]
    simp [Rows.set_eq_append hnew, Kind.isFile]
  · rw [FileNode.filesIn, FileNode.filesIn, h.elsewhere directory (not_exists.mp hplace)]

theorem changesAt_erase {directory : Place} {name : String}
    (hdirectory : fs.view directory = some .directory)
    (hold : fs.view (directory ++ [name]) ≠ some .directory) :
    fs.ChangesAt (directory ++ [name]) none (fs.erase (directory ++ [name])) where
  workingDirectory := rfl
  view := FileNode.kindAt_erase hdirectory hold
  before := hold
  listing := (FileNode.listing_of_change (f := Rows.remove)
    (FileNode.listing_erase hdirectory hold)).1
  elsewhere := (FileNode.listing_of_change (f := Rows.remove)
    (FileNode.listing_erase hdirectory hold)).2

/-- **A directory that is made** stands where nothing was. -/
theorem createDirectory_eq_ok (h : fs.createDirectory p = .ok fs') :
    ∃ place, fs.slot? p = some place ∧ fs.view place = none ∧
      fs.ChangesAt place (some .directory) fs' := by
  rw [createDirectory, create] at h
  split at h
  · cases h
  next directory hparent =>
  split at h
  · cases h
  next name slash hlast =>
  split at h
  · cases h
  · cases h
  next hlookUp =>
  have hnone := FileNode.kindAt_eq_none_iff.mpr (get?_of_lookUp hlookUp).2
  split at h
  · cases h
  obtain rfl := Except.ok.inj h
  refine ⟨_, slot?_eq_of_locateParent hparent hlast, hnone, ?_⟩
  exact changesAt_put FileNode.isBare_directory_nil (directory_of_locateParent hparent)
    (by simp [view, hnone])

/-- **A file or link that is removed** leaves nothing behind. -/
theorem removeFile_eq_ok (h : fs.removeFile p = .ok fs') :
    ∃ place, fs.slot? p = some place ∧ fs.ChangesAt place none fs' := by
  rw [removeFile] at h
  split at h
  · cases h
  next directory hparent =>
  split at h
  · cases h
  next name slash hlast =>
  split at h
  · cases h
  · cases h
  · cases h
  next node hnode hlookUp =>
  split at h
  · cases h
  obtain rfl := Except.ok.inj h
  refine ⟨_, slot?_eq_of_locateParent hparent hlast, ?_⟩
  refine changesAt_erase (directory_of_locateParent hparent) ?_
  -- a directory is not removed
  rw [view, Ne, FileNode.kindAt_eq_directory_iff, (get?_of_lookUp hlookUp).2]
  rintro ⟨entries, hentries⟩
  exact hnode entries (Option.some.inj hentries)

theorem leads_of_walk {making : Bool} {landing : Landing} (h : fs.walk making p = .ok landing) :
    Leads fs.view maxLinks (fs.start p) (Step.ofWholeText p.text) landing := by
  rw [walk] at h
  split at h
  · cases h
  · exact FileNode.leads_of_walk h

/-- A walk that ends at a free name ends in a directory that has no entry of that name. -/
theorem vacant_of_leads {v : View} {links : Nat} {place : Place} {steps : List Step}
    {landing : Landing} (h : Leads v links place steps landing) {directory : Place} {name : String}
    (hlanding : landing = .vacant directory name) :
    v directory = some .directory ∧ v (directory ++ [name]) = none := by
  induction h with
  | arrive => cases hlanding
  | vacant hdirectory _ hnone =>
    cases hlanding
    exact ⟨hdirectory, hnone⟩
  | stay _ _ _ ih | up _ _ ih | follow _ _ _ _ ih | enter _ _ _ _ _ ih => exact ih hlanding

/-- **A file that is written** is found at the aim of its path, where a file or nothing was. -/
theorem writeFile_eq_ok {content : ByteArray} (h : fs.writeFile p content = .ok fs') :
    ∃ place, fs.aim? p = some place ∧ (∀ target, fs.view place ≠ some (.link target)) ∧
      fs.ChangesAt place (some (.file content)) fs' ∧
      Leads fs'.view maxLinks (fs'.start p) (Step.ofWholeText p.text) (.node place) := by
  -- the file is made in a directory or replaces one, and both change the end of the walk
  obtain ⟨landing, hleads, hlink, hchanges⟩ : ∃ landing,
      Leads fs.view maxLinks (fs.start p) (Step.ofWholeText p.text) landing ∧
      (∀ target, fs.view landing.place ≠ some (.link target)) ∧
      fs.ChangesAt landing.place (some (.file content)) fs' := by
    rw [writeFile] at h
    split at h
    · cases h
    · next directory name hwalk =>
      obtain rfl := Except.ok.inj h
      have hleads := leads_of_walk hwalk
      obtain ⟨hdirectory, hnone⟩ := vacant_of_leads hleads rfl
      refine ⟨_, hleads, by simp [Landing.place, hnone], ?_⟩
      exact changesAt_put (FileNode.isBare_file content) hdirectory (by simp [hnone])
    · next place hwalk =>
      split at h
      · next old hfile =>
        obtain rfl := Except.ok.inj h
        have hview : fs.view place = some (.file old) := FileNode.kindAt_eq_file_iff.mpr hfile
        refine ⟨_, leads_of_walk hwalk, by simp [Landing.place, hview], ?_⟩
        exact changesAt_put_of_ne_none (FileNode.isBare_file content)
          (by simp [Landing.place, hview]) (by simp [Landing.place, hview])
      · cases h
  refine ⟨landing.place, hleads.aim_eq, hlink, hchanges, ?_⟩
  rw [hchanges.start_eq]
  refine hleads.of_sameLinks (hchanges.sameLinks hlink (by simp)) ?_ ?_
  · exact fun _ => hchanges.view_directory
  · simp [hchanges.view]

theorem flaw?_of_writeFile_eq_ok {content : ByteArray} (h : fs.writeFile p content = .ok fs') :
    p.flaw? = none := by
  rw [writeFile, walk] at h
  cases hflaw : p.flaw? with
  | some e => simp [hflaw] at h
  | none => rfl

/-- **A file can be moved** over a name in a directory that is that of no directory. -/
theorem exists_rename_eq_ok {source target : Path} {sourceDirectory targetDirectory : Place}
    {sourceName targetName : String} {kind : Kind}
    (hsourceLast : lastStep source = .name sourceName false)
    (htargetLast : lastStep target = .name targetName false)
    (hsource : fs.locateParent source = .ok sourceDirectory)
    (htarget : fs.locateParent target = .ok targetDirectory)
    (hsourceShort : isTooLong sourceName = false) (htargetShort : isTooLong targetName = false)
    (hkind : fs.view (sourceDirectory ++ [sourceName]) = some kind) (hleaf : kind ≠ .directory)
    (hreplaced : fs.view (targetDirectory ++ [targetName]) ≠ some .directory) :
    ∃ fs', fs.rename source target = .ok fs' := by
  obtain ⟨node, hnode, rfl⟩ := Option.map_eq_some_iff.mp hkind
  have hsourceEntry : fs.lookUp sourceDirectory sourceName = .ok (some node) := by
    rw [lookUp, if_neg (by simp [hsourceShort]), hnode]
  have htargetEntry : fs.lookUp targetDirectory targetName =
      .ok (fs.root.get? (targetDirectory ++ [targetName])) := by
    rw [lookUp, if_neg (by simp [htargetShort])]
  -- the check of what is replaced is made on the node, not on its kind
  have hno : ((fs.root.get? (targetDirectory ++ [targetName])).map FileNode.isDirectory).getD
      false = false := by
    rw [view, FileNode.kindAt] at hreplaced
    cases hget : fs.root.get? (targetDirectory ++ [targetName]) with
    | none => rfl
    | some other =>
      rw [hget, Option.map_some, Ne, Option.some.injEq, ← FileNode.isDirectory_iff] at hreplaced
      simpa using hreplaced
  cases node with
  | directory entries => exact absurd rfl hleaf
  | file | link =>
    simp [rename, hsource, htarget, hsourceLast, htargetLast, hsourceEntry, htargetEntry, hno]

/-- **A file or link that is moved** is gone from one place and found at the other, where no
directory was. -/
theorem rename_eq_ok {source target : Path} (h : fs.rename source target = .ok fs') :
    ∃ sourceDirectory sourceName targetDirectory targetName kind between,
      fs.Moves source target sourceDirectory sourceName targetDirectory targetName kind between
        fs' := by
  rw [rename] at h
  split at h
  · cases h
  · cases h
  next sourceDirectory targetDirectory hsource htarget =>
  split at h
  rotate_left
  · cases h
  next sourceName sourceSlash targetName targetSlash hsourceLast htargetLast =>
  split at h
  · cases h
  · cases h
  · cases h
  · cases h
  next node replaced hnode hsourceEntry htargetEntry =>
  split at h
  · cases h
  next hslash =>
  -- with a slash behind a name a directory would be asked for
  obtain ⟨hsourceSlash, htargetSlash⟩ : sourceSlash = false ∧ targetSlash = false := by
    simpa using hslash
  subst hsourceSlash htargetSlash
  split at h
  · cases h
  next hreplaced =>
  obtain rfl := Except.ok.inj h
  obtain ⟨hsourceShort, hsourceGet⟩ := get?_of_lookUp hsourceEntry
  obtain ⟨htargetShort, htargetGet⟩ := get?_of_lookUp htargetEntry
  have hkind : node.kind ≠ .directory := by
    cases node with
    | directory entries => exact absurd rfl (hnode entries)
    | file | link => simp
  have hsourceView : fs.view (sourceDirectory ++ [sourceName]) = some node.kind := by
    simp [view, FileNode.kindAt, hsourceGet]
  have htargetView : fs.view (targetDirectory ++ [targetName]) ≠ some .directory := by
    rw [view, FileNode.kindAt, htargetGet]
    cases replaced with
    | none => simp
    | some other => simpa [FileNode.isDirectory_iff] using hreplaced
  have herase : fs.ChangesAt (sourceDirectory ++ [sourceName]) none
      (fs.erase (sourceDirectory ++ [sourceName])) :=
    changesAt_erase (directory_of_locateParent hsource) (by simpa [hsourceView] using hkind)
  refine ⟨_, _, _, _, node.kind, _, hsourceLast, htargetLast, hsource, htarget, hsourceShort,
    htargetShort, hkind, htargetView, hsourceView, herase, ?_⟩
  refine changesAt_put (FileNode.isBare_of_kind_ne_directory hkind)
    (herase.view_directory (directory_of_locateParent htarget)) ?_
  -- both entries may be the same one
  rw [herase.view]
  split
  · simp
  · exact htargetView

namespace Moves

variable {source target : Path} {sourceDirectory targetDirectory : Place}
  {sourceName targetName : String} {kind : Kind} {between : FileSystem}

theorem slot?_source (h : fs.Moves source target sourceDirectory sourceName targetDirectory
    targetName kind between fs') : fs.slot? source = some (sourceDirectory ++ [sourceName]) :=
  slot?_eq_of_locateParent h.source_parent h.source_last

theorem slot?_target (h : fs.Moves source target sourceDirectory sourceName targetDirectory
    targetName kind between fs') : fs.slot? target = some (targetDirectory ++ [targetName]) :=
  slot?_eq_of_locateParent h.target_parent h.target_last

end Moves

end MessageCatalog.FileSystem
