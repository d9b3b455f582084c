import MessageCatalog.Proofs.FileTree.Effects

/-!
# What operations leave alone

Some paths may be written to and some directories may be made; everything else stays as it is. The
frame is given by paths and read through their aims, which it does not change, so the frames of
several operations add up.

## Main definitions

* `FileSystem.found` — what is found at a path, links followed.
* `FileSystem.NamesLink` — whether a path names a link itself.
* `FileSystem.Replaceable` — whether a file can be moved to a path.
* `FileSystem.Meet` — whether two paths are meant for one place.
* `FileSystem.Stays` — what stays as it is when some paths are written and some are made.
* `FileSystem.KeptOrMade` — whether a place holds what it held, or a directory that was made there.

## Main results

* `FileSystem.fileNames_eq`: the files of a folder are those that are listed in its directory
* `FileSystem.Stays.keptOrMade`: a place that is not written keeps what it holds, or it is made
* `FileSystem.Stays.found_eq`: a path that is neither written nor made finds what it found before
* `FileSystem.found_of_writeFile_eq_ok`: what is written to a path is found there
* `FileSystem.stays_writeFile`, `stays_discard`, `stays_createDirectories`: the frames of the
  operations
-/

namespace MessageCatalog.FileSystem

/-- What is found at a path, links followed: a file with its content, a directory, or nothing. -/
def found (fs : FileSystem) (p : Path) : Option Kind :=
  match fs.nodeAt p with
  | .ok node => some node.kind
  | .error _ => none

/-- Whether a path names a link. -/
def NamesLink (fs : FileSystem) (p : Path) : Prop :=
  ∃ place ∈ fs.slot? p, ∃ kind ∈ fs.view place, kind.isLink = true

/-- Whether a file can be moved to a path: it ends in a name, which is not that of a directory. -/
def Replaceable (fs : FileSystem) (p : Path) : Prop :=
  p.flaw? = none ∧ (∃ name, lastStep p = .name name false) ∧
    ∀ place ∈ fs.slot? p, fs.view place ≠ some .directory

/-- Whether two paths are meant for one place. -/
def Meet (fs : FileSystem) (p q : Path) : Prop :=
  ∃ place ∈ fs.aim? p, fs.aim? q = some place

instance (fs : FileSystem) (p : Path) : Decidable (fs.NamesLink p) :=
  inferInstanceAs (Decidable (∃ place ∈ fs.slot? p, ∃ kind ∈ fs.view place, kind.isLink = true))

instance (fs : FileSystem) (p q : Path) : Decidable (fs.Meet p q) :=
  inferInstanceAs (Decidable (∃ place ∈ fs.aim? p, fs.aim? q = some place))

/-- Everything stays as it is, except that files may be written and removed at the aims of some
paths and directories may be made at the aims of others. -/
structure Stays (fs : FileSystem) (written made : List Path) (fs' : FileSystem) : Prop where
  workingDirectory : fs'.workingDirectory = fs.workingDirectory
  sameLinks : SameLinks fs.view fs'.view
  directories : ∀ place, fs.view place = some .directory → fs'.view place = some .directory
  elsewhere : ∀ place, (∀ p ∈ written, fs.aim? p ≠ some place) →
    fs'.view place = fs.view place ∨ fs.view place = none ∧ ∃ p ∈ made, fs.aim? p = some place
  /-- In every directory the same files are listed, but for those that are written. -/
  files : ∀ directory (keep : String → Bool),
    (∀ name, keep name = true → ∀ p ∈ written, fs.aim? p ≠ some (directory ++ [name])) →
      (fs'.root.filesIn directory).filter keep = (fs.root.filesIn directory).filter keep

/-- What is at a place is what was there, or it is a directory that was made there for a path where
nothing was. -/
def KeptOrMade (fs : FileSystem) (made : List Path) (fs' : FileSystem) (place : Place) : Prop :=
  fs'.view place = fs.view place ∨
    fs.view place = none ∧ fs'.view place = some .directory ∧ ∃ p ∈ made, fs.aim? p = some place

theorem Meet.symm {fs : FileSystem} {p q : Path} (h : fs.Meet p q) : fs.Meet q p := by
  obtain ⟨place, hp, hq⟩ := h
  exact ⟨place, hq, hp⟩

theorem namesLink_iff_exists {fs : FileSystem} {p : Path} :
    fs.NamesLink p ↔
      ∃ place target, fs.slot? p = some place ∧ fs.view place = some (.link target) := by
  constructor
  · rintro ⟨place, hentry, kind, hkind, hlink⟩
    cases kind with
    | link target => exact ⟨place, target, hentry, hkind⟩
    | file | directory => cases hlink
  · rintro ⟨place, target, hentry, hkind⟩
    exact ⟨place, hentry, .link target, hkind, rfl⟩

/-- The entry of a path that names no link is the aim of the path. -/
theorem aim?_eq_of_not_namesLink {fs : FileSystem} {p : Path} {place : Place}
    (hlink : ¬ fs.NamesLink p) (hentry : fs.slot? p = some place) :
    (∀ target, fs.view place ≠ some (.link target)) ∧ fs.aim? p = some place := by
  have hview : ∀ target, fs.view place ≠ some (.link target) :=
    fun target htarget => hlink (namesLink_iff_exists.mpr ⟨place, target, hentry, htarget⟩)
  exact ⟨hview, aim?_eq_of_slot? hentry hview⟩

/-! ## What is found and read -/

theorem locate_eq_ok_iff {fs : FileSystem} {p : Path} {place : Place} :
    fs.locate p = .ok place ↔ p.flaw? = none ∧
      Leads fs.view maxLinks (fs.start p) (Step.ofWholeText p.text) (.node place) := by
  rw [locate, walk]
  cases hflaw : p.flaw? with
  | some e => simp
  | none =>
    simp only [true_and]
    constructor
    · intro h
      split at h
      · next last hwalk =>
        obtain rfl := Except.ok.inj h
        exact FileNode.walk_eq_ok_iff.mp hwalk
      · cases h
      · cases h
    · intro hleads
      rw [FileNode.walk_eq_ok_iff.mpr hleads]

theorem found_eq_some_iff {fs : FileSystem} {p : Path} {kind : Kind} :
    fs.found p = some kind ↔ ∃ place, fs.locate p = .ok place ∧ fs.view place = some kind := by
  rw [found, nodeAt, view]
  cases fs.locate p with
  | error e => simp
  | ok place => cases hget : fs.root.get? place <;> simp [FileNode.kindAt, hget]

theorem fromUTF8?_eq_some_iff {bytes : ByteArray} {text : String} :
    String.fromUTF8? bytes = some text ↔ bytes = text.toUTF8 := by
  rw [String.fromUTF8?]
  constructor
  · intro h
    split at h
    · obtain rfl := Option.some.inj h
      rfl
    · cases h
  · rintro rfl
    exact dif_pos text.isValidUTF8

/-- A text is read where a file with its bytes is found. -/
theorem readText_eq_ok_iff {fs : FileSystem} {p : Path} {text : String} :
    fs.readText p = .ok text ↔ fs.found p = some (.file text.toUTF8) := by
  rw [readText, readBytes, found]
  cases fs.nodeAt p with
  | error e => simp
  | ok node =>
    cases node with
    | file content =>
      simp only [FileNode.kind_file, Option.some.injEq, Kind.file.injEq, ← fromUTF8?_eq_some_iff]
      cases String.fromUTF8? content <;> simp
    | link | directory => simp

section Reading

variable {fs fs' : FileSystem} {p : Path} {place : Place}

theorem exists?_iff : fs.exists? p = true ↔ fs.found p ≠ none := by
  rw [exists?, found]
  cases fs.nodeAt p <;> simp

/-- Something is found at a path that leads to a node. -/
theorem exists?_iff_exists_place :
    fs.exists? p = true ↔ ∃ place kind, fs.locate p = .ok place ∧ fs.view place = some kind := by
  rw [exists?_iff, Option.ne_none_iff_exists', exists_comm]
  simp only [found_eq_some_iff]

theorem isFile_iff : fs.isFile p = true ↔ ∃ content, fs.found p = some (.file content) := by
  rw [isFile, found]
  rcases fs.nodeAt p with - | (- | - | -) <;> simp [FileNode.isFile]

theorem isDirectory_iff : fs.isDirectory p = true ↔ fs.found p = some .directory := by
  rw [isDirectory, found]
  rcases fs.nodeAt p with - | (- | - | -) <;> simp [FileNode.isDirectory]

theorem readText_of_flaw {e : FileError} (h : p.flaw? = some e) : fs.readText p = .error e := by
  simp [readText, readBytes, nodeAt, locate, walk, h]

/-- Where the same is found, the same text is read. -/
theorem readText_eq_of_found (h : fs'.found p = fs.found p) (hfound : fs.found p ≠ none) :
    fs'.readText p = fs.readText p := by
  rw [found, found] at h
  rw [found] at hfound
  rw [readText, readText, readBytes, readBytes]
  cases hnode : fs.nodeAt p with
  | error e => simp [hnode] at hfound
  | ok node =>
    cases hnode' : fs'.nodeAt p with
    | error e => simp [hnode, hnode'] at h
    | ok node' =>
      rw [hnode, hnode'] at h
      have hkind : node'.kind = node.kind := Option.some.inj h
      cases node <;> cases node' <;> simp_all

/-- The files of a folder are those that are listed in its directory. -/
theorem fileNames_eq (h : fs.locate p = .ok place) : fs.fileNames p = fs.root.filesIn place := by
  rw [fileNames, nodeAt, h, FileNode.filesIn]
  simp only
  cases hnode : fs.root.get? place with
  | none => simp [FileNode.listing, hnode]
  | some node =>
    cases node with
    | directory entries =>
      rw [FileNode.listing_of_get? hnode, List.filter_map, List.map_map]
      simp only [Function.comp_def, FileNode.isFile_kind]
    | file | link => simp [FileNode.listing, hnode]

end Reading

/-! ## The rules of a frame -/

namespace Stays

variable {fs fs' fs'' : FileSystem} {written made : List Path}

theorem refl (fs : FileSystem) (written made : List Path) : fs.Stays written made fs where
  workingDirectory := rfl
  sameLinks := SameLinks.refl fs.view
  directories := fun _ h => h
  elsewhere := fun _ _ => .inl rfl
  files := fun _ _ _ => rfl

theorem start_eq (h : fs.Stays written made fs') (p : Path) : fs'.start p = fs.start p := by
  rw [start, start, h.workingDirectory]

theorem aim?_eq (h : fs.Stays written made fs') (p : Path) : fs'.aim? p = fs.aim? p := by
  rw [aim?, aim?, h.start_eq, aim_congr h.sameLinks]

theorem slot?_eq (h : fs.Stays written made fs') (p : Path) : fs'.slot? p = fs.slot? p := by
  rw [slot?, slot?, h.start_eq, aim_congr h.sameLinks]

theorem namesLink_iff (h : fs.Stays written made fs') (p : Path) :
    fs'.NamesLink p ↔ fs.NamesLink p := by
  simp only [namesLink_iff_exists, h.slot?_eq]
  exact exists_congr fun place => exists_congr fun target =>
    and_congr_right fun _ => (h.sameLinks place target).symm

theorem meet_iff (h : fs.Stays written made fs') (p q : Path) : fs'.Meet p q ↔ fs.Meet p q := by
  simp only [Meet, h.aim?_eq]

theorem mono (h : fs.Stays written made fs') {written' made' : List Path}
    (hwritten : written ⊆ written') (hmade : made ⊆ made') : fs.Stays written' made' fs' where
  workingDirectory := h.workingDirectory
  sameLinks := h.sameLinks
  directories := h.directories
  elsewhere := by
    intro place hplace
    refine (h.elsewhere place fun p hp => hplace p (hwritten hp)).imp_right ?_
    rintro ⟨hnone, p, hp, haim⟩
    exact ⟨hnone, p, hmade hp, haim⟩
  files := fun directory keep hkeep =>
    h.files directory keep fun name hname p hp => hkeep name hname p (hwritten hp)

theorem trans (h : fs.Stays written made fs') (h' : fs'.Stays written made fs'') :
    fs.Stays written made fs'' where
  workingDirectory := h'.workingDirectory.trans h.workingDirectory
  sameLinks := h.sameLinks.trans h'.sameLinks
  directories := fun place hplace => h'.directories place (h.directories place hplace)
  elsewhere := by
    intro place hplace
    simp only [← h.aim?_eq] at hplace ⊢
    -- what the first step has left alone is still the same before the second
    rcases h.elsewhere place (by simpa only [h.aim?_eq] using hplace) with
      heq | ⟨hnone, p, hp, haim⟩
    · rw [← heq]
      exact h'.elsewhere place hplace
    · exact .inr ⟨hnone, p, hp, (h.aim?_eq p).trans haim⟩
  files := by
    intro directory keep hkeep
    refine (h'.files directory keep ?_).trans (h.files directory keep hkeep)
    simpa only [h.aim?_eq] using hkeep

/-- What is where nothing is written stays there. -/
theorem view_eq_some (h : fs.Stays written made fs') {place : Place} {kind : Kind}
    (hplace : ∀ p ∈ written, fs.aim? p ≠ some place) (hkind : fs.view place = some kind) :
    fs'.view place = some kind := by
  rcases h.elsewhere place hplace with heq | ⟨hnone, -⟩
  · exact heq.trans hkind
  · cases hnone.symm.trans hkind

/-- Where nothing is written and no directory is made, all is as it was. -/
theorem view_eq (h : fs.Stays written [] fs') {place : Place}
    (hplace : ∀ p ∈ written, fs.aim? p ≠ some place) : fs'.view place = fs.view place := by
  rcases h.elsewhere place hplace with heq | ⟨-, p, hp, -⟩
  · exact heq
  · cases hp

/-- **A place that is left alone** keeps what it holds, or a directory is made there: no file can come
to a directory in which no other file is listed, and no link is made anywhere. -/
theorem keptOrMade (h : fs.Stays written made fs') {place : Place}
    (hplace : ∀ p ∈ written, fs.aim? p ≠ some place) : fs.KeptOrMade made fs' place := by
  rcases h.elsewhere place hplace with heq | ⟨hnone, p, hp, haim⟩
  · exact .inl heq
  cases hkind : fs'.view place with
  | none => exact .inl (hkind.trans hnone.symm)
  | some kind =>
    cases kind with
    | directory => exact .inr ⟨hnone, hkind, p, hp, haim⟩
    | link target => cases hnone.symm.trans ((h.sameLinks place target).mpr hkind)
    | file content =>
      rcases List.eq_nil_or_concat place with rfl | ⟨directory, name, rfl⟩
      · simp [view, FileNode.kindAt] at hnone
      rw [List.concat_eq_append] at hnone hkind hplace
      -- the file would be listed under its name, where none was listed before
      have hlisted : name ∈ (fs'.root.filesIn directory).filter (· == name) := by
        simp [FileNode.mem_filesIn_of_kindAt hkind]
      rw [h.files directory (· == name) (by simpa using hplace)] at hlisted
      exact absurd hnone (FileNode.kindAt_ne_none_of_mem_filesIn (List.mem_filter.mp hlisted).1)

/-- A file that is where nothing was written was there before. -/
theorem view_file_before (h : fs.Stays written made fs') {place : Place} {content : ByteArray}
    (hplace : ∀ p ∈ written, fs.aim? p ≠ some place)
    (hfile : fs'.view place = some (.file content)) : fs.view place = some (.file content) := by
  rcases h.keptOrMade hplace with heq | ⟨-, hmade, -⟩
  · exact heq.symm.trans hfile
  · cases hmade.symm.trans hfile

/-- **A path that is left alone** finds what it found before. It must not be written to, and if it
found nothing, nothing may be at its aim and no directory may be made there. -/
theorem found_eq (h : fs.Stays written made fs') {p : Path}
    (hwritten : ∀ q ∈ written, ¬ fs.Meet p q)
    (hvacant : fs.found p = none → ∀ place, fs.aim? p = some place → fs.view place = none)
    (hmade : fs.found p = none → ∀ q ∈ made, ¬ fs.Meet p q) : fs'.found p = fs.found p := by
  have hother : ∀ place, fs.aim? p = some place → ∀ q ∈ written, fs.aim? q ≠ some place :=
    fun place haim q hq hmeet => hwritten q hq ⟨place, haim, hmeet⟩
  cases hfound : fs.found p with
  | some kind =>
    obtain ⟨place, hlocate, hkind⟩ := found_eq_some_iff.mp hfound
    obtain ⟨hflaw, hleads⟩ := locate_eq_ok_iff.mp hlocate
    have hkind' := h.view_eq_some (hother place hleads.aim_eq) hkind
    refine found_eq_some_iff.mpr ⟨place, locate_eq_ok_iff.mpr ⟨hflaw, ?_⟩, hkind'⟩
    rw [h.start_eq]
    exact hleads.of_sameLinks h.sameLinks h.directories (by simp [Landing.place, hkind'])
  | none =>
    -- a walk that ends now ends at the aim of before, where nothing was and nothing is made
    refine Option.eq_none_iff_forall_ne_some.mpr fun kind hkind => ?_
    obtain ⟨place, hlocate, hkind⟩ := found_eq_some_iff.mp hkind
    obtain ⟨-, hleads⟩ := locate_eq_ok_iff.mp hlocate
    have haim : fs.aim? p = some place := (h.aim?_eq p).symm.trans hleads.aim_eq
    have hnone := hvacant hfound place haim
    rcases h.elsewhere place (hother place haim) with heq | ⟨-, q, hq, hmeet⟩
    · cases (heq.trans hnone).symm.trans hkind
    · exact hmade hfound q hq ⟨place, haim, hmeet⟩

/-- A path that found something and is not written to finds the same. -/
theorem found_eq_of_ne_none (h : fs.Stays written made fs') {p : Path}
    (hwritten : ∀ q ∈ written, ¬ fs.Meet p q) (hfound : fs.found p ≠ none) :
    fs'.found p = fs.found p :=
  h.found_eq hwritten (fun hnone => absurd hnone hfound) fun hnone => absurd hnone hfound

/-- A path that is left alone still takes a file if it took one before. -/
theorem replaceable (h : fs.Stays written made fs') {p : Path}
    (hwritten : ∀ q ∈ written, ¬ fs.Meet p q)
    (hmade : fs.found p = none → ∀ q ∈ made, ¬ fs.Meet p q) (hp : fs.Replaceable p) :
    fs'.Replaceable p := by
  obtain ⟨hflaw, hlast, hentry⟩ := hp
  refine ⟨hflaw, hlast, ?_⟩
  intro place hplace hdirectory
  rw [h.slot?_eq] at hplace
  -- a link stays a link, and any other entry is the aim of the path
  by_cases hlink : ∃ target, fs.view place = some (.link target)
  · obtain ⟨target, hlink⟩ := hlink
    cases hdirectory.symm.trans ((h.sameLinks place target).mp hlink)
  have haim := aim?_eq_of_slot? hplace (not_exists.mp hlink)
  rcases h.elsewhere place fun q hq hmeet => hwritten q hq ⟨place, haim, hmeet⟩ with
    heq | ⟨hnone, q, hq, hmeet⟩
  · exact hentry place hplace (heq.symm.trans hdirectory)
  · refine hmade ?_ q hq ⟨place, haim, hmeet⟩
    refine Option.eq_none_iff_forall_ne_some.mpr fun kind hkind => ?_
    obtain ⟨last, hlocate, hlast⟩ := found_eq_some_iff.mp hkind
    obtain rfl := Option.some.inj (haim.symm.trans (locate_eq_ok_iff.mp hlocate).2.aim_eq)
    cases hnone.symm.trans hlast

/-- A path that takes a file took one before, since no directory has gone. -/
theorem replaceable_before (h : fs.Stays written made fs') {p : Path} (hp : fs'.Replaceable p) :
    fs.Replaceable p := by
  obtain ⟨hflaw, hlast, hentry⟩ := hp
  refine ⟨hflaw, hlast, ?_⟩
  intro place hplace hdirectory
  rw [h.slot?_eq] at hentry
  exact hentry place hplace (h.directories place hdirectory)

end Stays

/-! ## The frames of the operations -/

variable {fs fs' : FileSystem} {p : Path}

/-- A change at the aim of a path that neither takes a link away nor makes one touches that path
only. -/
theorem ChangesAt.stays {place : Place} {kind : Option Kind} (h : fs.ChangesAt place kind fs')
    (haim : fs.aim? p = some place) (hbefore : ∀ target, fs.view place ≠ some (.link target))
    (hkind : ∀ target, kind ≠ some (.link target)) : fs.Stays [p] [] fs' where
  workingDirectory := h.workingDirectory
  sameLinks := h.sameLinks hbefore hkind
  directories := fun _ => h.view_directory
  elsewhere := by
    intro other hother
    rw [h.view, if_neg]
    · exact .inl rfl
    · rintro rfl
      exact hother p (by simp) haim
  files := by
    intro directory keep hkeep
    apply h.filter_filesIn
    rintro name rfl
    by_contra hname
    exact hkeep name (by simpa using hname) p (by simp) haim

theorem stays_createDirectory (h : fs.createDirectory p = .ok fs') : fs.Stays [] [p] fs' := by
  obtain ⟨place, hentry, hnone, hchanges⟩ := createDirectory_eq_ok h
  have hlink : ∀ target, fs.view place ≠ some (.link target) := by simp [hnone]
  refine ⟨hchanges.workingDirectory, hchanges.sameLinks hlink (by simp),
    fun _ => hchanges.view_directory, ?_, ?_⟩
  · intro other _
    rw [hchanges.view]
    split
    · next hother =>
      exact .inr ⟨hother ▸ hnone, p, by simp, hother ▸ aim?_eq_of_slot? hentry hlink⟩
    · exact .inl rfl
  · intro directory keep _
    rw [hchanges.filesIn_eq hnone]

theorem stays_writeFile {content : ByteArray} (h : fs.writeFile p content = .ok fs') :
    fs.Stays [p] [] fs' := by
  obtain ⟨place, haim, hlink, hchanges, -⟩ := writeFile_eq_ok h
  exact hchanges.stays haim hlink (by simp)

/-- **What is written to a path** is found there. -/
theorem found_of_writeFile_eq_ok {content : ByteArray} (h : fs.writeFile p content = .ok fs') :
    fs'.found p = some (.file content) := by
  obtain ⟨place, -, -, hchanges, hleads⟩ := writeFile_eq_ok h
  refine found_eq_some_iff.mpr ⟨place, ?_, ?_⟩
  · exact locate_eq_ok_iff.mpr ⟨flaw?_of_writeFile_eq_ok h, hleads⟩
  · rw [hchanges.view, if_pos rfl]

theorem stays_discard (hlink : ¬ fs.NamesLink p) : fs.Stays [p] [] (fs.discard p) := by
  rw [discard]
  split
  · next removed hremoved =>
    obtain ⟨place, hentry, hchanges⟩ := removeFile_eq_ok hremoved
    obtain ⟨hlink, haim⟩ := aim?_eq_of_not_namesLink hlink hentry
    exact hchanges.stays haim hlink (by simp)
  · exact .refl fs _ _

/-- **Moving a file** that is no link over a name that is no link touches these two only. -/
theorem stays_rename {source target : Path} (hsource : ¬ fs.NamesLink source)
    (htarget : ¬ fs.NamesLink target) (h : fs.rename source target = .ok fs') :
    fs.Stays [source, target] [] fs' := by
  obtain ⟨sourceDirectory, sourceName, targetDirectory, targetName, kind, between, hmoves⟩ :=
    rename_eq_ok h
  obtain ⟨hsourceLink, hsourceAim⟩ := aim?_eq_of_not_namesLink hsource hmoves.slot?_source
  obtain ⟨htargetLink, htargetAim⟩ := aim?_eq_of_not_namesLink htarget hmoves.slot?_target
  have hgone : fs.Stays [source] [] between := hmoves.gone.stays hsourceAim hsourceLink (by simp)
  have hcome : between.Stays [target] [] fs' := by
    refine hmoves.come.stays ((hgone.aim?_eq target).trans htargetAim) ?_ ?_
    · exact fun link hlink => htargetLink link ((hgone.sameLinks _ _).mpr hlink)
    · exact fun link hlink => hsourceLink link (hmoves.there.trans hlink)
  exact (hgone.mono (by simp) (by simp)).trans (hcome.mono (by simp) (by simp))

theorem replaceable_of_rename_eq_ok {source target : Path}
    (h : fs.rename source target = .ok fs') : fs.Replaceable target := by
  obtain ⟨sourceDirectory, sourceName, targetDirectory, targetName, kind, between, hmoves⟩ :=
    rename_eq_ok h
  refine ⟨flaw?_of_locateParent hmoves.target_parent, ⟨targetName, hmoves.target_last⟩, ?_⟩
  intro place hplace
  obtain rfl := Option.some.inj (hmoves.slot?_target.symm.trans hplace)
  exact hmoves.replaced

/-- **A file that is moved** is found at the path that it is moved to. -/
theorem found_of_rename_eq_ok {source target : Path} (hsource : ¬ fs.NamesLink source)
    (htarget : ¬ fs.NamesLink target) (h : fs.rename source target = .ok fs') {place : Place}
    {kind : Kind} (haim : fs.aim? source = some place) (hkind : fs.view place = some kind) :
    fs'.found target = some kind := by
  have hstays := stays_rename hsource htarget h
  obtain ⟨sourceDirectory, sourceName, targetDirectory, targetName, moved, between, hmoves⟩ :=
    rename_eq_ok h
  obtain ⟨hsourceLink, hsourceAim⟩ := aim?_eq_of_not_namesLink hsource hmoves.slot?_source
  obtain rfl := Option.some.inj (hsourceAim.symm.trans haim)
  obtain rfl := Option.some.inj (hmoves.there.symm.trans hkind)
  have hentry : fs'.view (targetDirectory ++ [targetName]) = some moved := by
    simp [hmoves.come.view]
  have hparent := hmoves.target_parent
  refine found_eq_some_iff.mpr
    ⟨_, locate_eq_ok_iff.mpr ⟨flaw?_of_locateParent hparent, ?_⟩, hentry⟩
  -- the walk to the directory is the one of before, and its last step enters the moved entry
  have hdirectory := hstays.directories _ (directory_of_locateParent hparent)
  have hleads : Leads fs'.view maxLinks (fs.start target) (Step.ofText target.text).dropLast
      (.node targetDirectory) :=
    (leads_dropLast_of_locateParent hparent).of_sameLinks hstays.sameLinks
      hstays.directories (by simp [Landing.place, hdirectory])
  rw [hstays.start_eq, ofWholeText_eq_of_lastStep hmoves.target_last,
    ofText_eq_of_lastStep hmoves.target_last]
  refine hleads.concat rfl hdirectory hmoves.target_short hentry ?_
  rintro link rfl
  exact hsourceLink link hmoves.there

/-- Something is at the target of a renaming. -/
theorem view_target_of_rename {source target : Path} {place : Place}
    (htarget : ¬ fs.NamesLink target) (h : fs.rename source target = .ok fs')
    (haim : fs.aim? target = some place) : fs'.view place ≠ none := by
  obtain ⟨_, _, _, _, _, _, hmoves⟩ := rename_eq_ok h
  obtain ⟨-, hplace⟩ := aim?_eq_of_not_namesLink htarget hmoves.slot?_target
  obtain rfl := Option.some.inj (hplace.symm.trans haim)
  simp [hmoves.come.view]

/-- Nothing is left at the source of a renaming, unless it is the target too. -/
theorem view_source_of_rename {source target : Path} {place : Place}
    (hsource : ¬ fs.NamesLink source) (htarget : ¬ fs.NamesLink target)
    (h : fs.rename source target = .ok fs') (haim : fs.aim? source = some place)
    (hne : fs.aim? target ≠ some place) : fs'.view place = none := by
  obtain ⟨_, _, _, _, _, _, hmoves⟩ := rename_eq_ok h
  obtain ⟨-, hplace⟩ := aim?_eq_of_not_namesLink hsource hmoves.slot?_source
  obtain ⟨-, hother⟩ := aim?_eq_of_not_namesLink htarget hmoves.slot?_target
  obtain rfl := Option.some.inj (hplace.symm.trans haim)
  rw [hother, Ne, Option.some.injEq] at hne
  rw [hmoves.come.view, if_neg (Ne.symm hne), hmoves.gone.view, if_pos rfl]

/-- Going up to a directory that is there or can be made makes one directory at most. -/
theorem stays_findFooting (fs : FileSystem) (above missing : List Path) :
    fs.Stays [] above (fs.findFooting above missing).1 ∧
      ∀ remaining, (fs.findFooting above missing).2 = .ok remaining →
        remaining ⊆ above ++ missing := by
  -- the directories that are passed on the way up are the missing ones
  induction above generalizing missing with
  | nil => exact ⟨.refl fs _ _, by simp [findFooting]⟩
  | cons p above ih =>
    rw [findFooting]
    split
    · exact ⟨.refl fs _ _, by simp⟩
    split
    · next made hmade =>
      exact ⟨(stays_createDirectory hmade).mono (List.Subset.refl _) (by simp), by simp⟩
    · obtain ⟨hstays, hremaining⟩ := ih (p :: missing)
      refine ⟨hstays.mono (List.Subset.refl _) (List.subset_cons_self _ _), ?_⟩
      intro remaining hok q hq
      have := hremaining remaining hok hq
      simp only [List.mem_append, List.mem_cons] at this ⊢
      rcases this with h | h | h <;> simp [h]
    · split
      · exact ⟨.refl fs _ _, by simp⟩
      · exact ⟨.refl fs _ _, by simp⟩
    · exact ⟨.refl fs _ _, by simp⟩

theorem stays_createAll (missing : List Path) : fs.Stays [] missing (fs.createAll missing).1 := by
  induction missing generalizing fs with
  | nil => exact .refl fs _ _
  | cons p missing ih =>
    rw [createAll]
    split
    · next made hmade =>
      have hfirst : fs.Stays [] (p :: missing) made :=
        (stays_createDirectory hmade).mono (List.Subset.refl _) (by simp)
      exact hfirst.trans (ih.mono (List.Subset.refl _) (List.subset_cons_self _ _))
    · split
      · exact ih.mono (List.Subset.refl _) (List.subset_cons_self _ _)
      · exact .refl fs _ _

/-- **Making the directories above a path** makes only those. -/
theorem stays_createDirectories (fs : FileSystem) (p : Path) :
    fs.Stays [] p.ancestors (fs.createDirectories p).1 := by
  obtain ⟨hstays, hmissing⟩ := stays_findFooting fs p.ancestors []
  rw [createDirectories]
  split
  · next footed missing hfooting =>
    rw [hfooting] at hstays hmissing
    refine hstays.trans ((stays_createAll missing).mono (List.Subset.refl _) ?_)
    simpa using hmissing missing rfl
  · next footed e hfooting =>
    rw [hfooting] at hstays
    exact hstays

end MessageCatalog.FileSystem
