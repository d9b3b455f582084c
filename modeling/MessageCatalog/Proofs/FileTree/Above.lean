import MessageCatalog.Proofs.FileTree.Plain

/-!
# Paths above a path

A path is written behind those above it, and it is walked through them: whatever is found at the
path, the ones above it are directories. So if the directories above a path cannot be made, no
directory is there, and nothing is found below it.

## Main definitions

* `Path.IsAbove` — whether a path is the front part of another one, with its steps.

## Main results

* `Path.isAbove_of_mem_ancestors`, `Path.isAbove_join`: the ancestors of a path and the folder of a
  name are above
* `FileSystem.isDirectory_of_isAbove`: what is above a directory is a directory
* `FileSystem.not_isDirectory_of_createDirectories`: if directories cannot be made, the last of them
  is not there
* `FileSystem.found_discard_ne_file`: a file that is discarded is gone
-/

namespace MessageCatalog

namespace Path

/-- A path is the front part of another one, in its text and in its steps. -/
structure IsAbove (q p : Path) : Prop where
  ne_empty : q.text ≠ ""
  text : q.text.toList <+: p.text.toList
  steps : Step.ofText q.text <+: Step.ofText p.text

namespace IsAbove

variable {p q : Path}

theorem text_ne_empty (h : q.IsAbove p) : p.text ≠ "" := by
  obtain ⟨rest, htext⟩ := h.text
  intro hempty
  rw [hempty, String.toList_empty, List.append_eq_nil_iff, String.toList_eq_nil_iff] at htext
  exact h.ne_empty htext.1

theorem isAbsolute_eq (h : q.IsAbove p) : q.isAbsolute = p.isAbsolute := by
  obtain ⟨rest, htext⟩ := h.text
  obtain ⟨c, cs, hq⟩ := List.exists_cons_of_ne_nil (mt String.toList_eq_nil_iff.mp h.ne_empty)
  rw [isAbsolute, isAbsolute, ← htext, hq, List.cons_append, List.head?_cons, List.head?_cons]

/-- A path with nothing wrong in its text has nothing wrong in the texts above it. -/
theorem flaw?_eq_none (h : q.IsAbove p) (hp : p.flaw? = none) : q.flaw? = none := by
  obtain ⟨rest, htext⟩ := h.text
  have htext : p.text = q.text ++ String.ofList rest := by
    rw [← String.toList_inj, ← htext, String.toList_append, String.toList_ofList]
  have hne := h.ne_empty
  simp only [flaw?, hasNul, htext, String.toList_append, String.toList_ofList,
    String.utf8ByteSize_append, List.contains_eq_mem, List.mem_append] at hp ⊢
  split at hp
  · cases hp
  next hnul =>
  split at hp
  · cases hp
  split at hp
  · cases hp
  next hlong =>
  rw [if_neg (by simp_all), if_neg hne, if_neg (by omega)]

end IsAbove

/-! ## The paths above a path -/

theorem joinSegments_isPrefix {front segments : List Segment} (h : front <+: segments) :
    joinSegments front <+: joinSegments segments := by
  obtain ⟨rest, rfl⟩ := h
  rcases eq_or_ne rest [] with rfl | hrest
  · simp
  induction front with
  | nil => exact List.nil_prefix
  | cons segment front ih =>
    have hmore : front ++ rest ≠ [] := by simp [hrest]
    rw [List.cons_append, joinSegments_cons segment hmore]
    rcases eq_or_ne front [] with rfl | hfront
    · exact List.prefix_append _ _
    · rw [joinSegments_cons segment hfront, List.prefix_append_right_inj, List.cons_prefix_cons]
      exact ⟨rfl, ih⟩

variable {p q : Path}

/-- Some of the first segments of a path are a path above it. -/
theorem isAbove_of_segments {segments : List Segment} (hne : q.text ≠ "")
    (htext : q.text.toList = joinSegments segments)
    (hfront : segments <+: splitAtSlashes p.text.toList) : q.IsAbove p := by
  have hsome : segments ≠ [] := by
    rintro rfl
    exact hne (by simpa [joinSegments] using htext)
  refine ⟨hne, ?_, ?_⟩
  · rw [htext, ← joinSegments_splitAtSlashes p.text.toList]
    exact joinSegments_isPrefix hfront
  · rw [Step.ofText, htext, splitAtSlashes_joinSegments hsome fun segment hsegment =>
      slash_not_mem_of_mem_splitAtSlashes (hfront.subset hsegment)]
    exact hfront.filterMap _

theorem isAbove_assemble {base : List Segment} (hne : (assemble p.split.1 base).text ≠ "")
    (hbase : base <+: p.split.2) : (assemble p.split.1 base).IsAbove p := by
  rcases eq_or_ne base [] with rfl | hsome
  · cases hlead : p.split.1 with
    | root =>
      -- the text of the root is the slash in front of the segments
      have habsolute := isAbsolute_iff_split.mpr hlead
      rw [isAbsolute, beq_iff_eq] at habsolute
      obtain ⟨rest, htext⟩ := List.head?_eq_some_iff.mp habsolute
      refine ⟨by simp [assemble, joinSegments], ?_, ?_⟩
      · simp [assemble, joinSegments, htext]
      · simp [assemble, joinSegments, Step.ofText, splitAtSlashes, Step.ofSegment?]
    | here =>
      have htext : (assemble .here []).text.toList = joinSegments [['.']] := rfl
      refine isAbove_of_segments (by simp [assemble]) htext ?_
      rw [splitAtSlashes_text, hlead]
      exact List.prefix_append _ _
    | nothing => simp [hlead, assemble, joinSegments] at hne
  · refine isAbove_of_segments hne (toList_text_assemble _ hsome) ?_
    rw [splitAtSlashes_text, List.prefix_append_right_inj]
    exact hbase

theorem mem_parentsOf {lead : Lead} {segments : List Segment} (h : q ∈ parentsOf lead segments) :
    q = ⟨""⟩ ∨ ∃ base, base <+: segments.reverse ∧ q = assemble lead base := by
  induction segments with
  | nil =>
    rw [parentsOf] at h
    split at h
    · exact .inl (List.mem_singleton.mp h)
    · cases h
  | cons segment above ih =>
    have habove : above.reverse <+: (segment :: above).reverse := by simp
    have hrest : q ∈ parentsOf lead above →
        q = ⟨""⟩ ∨ ∃ base, base <+: (segment :: above).reverse ∧ q = assemble lead base := by
      intro hq
      refine (ih hq).imp_right ?_
      rintro ⟨base, hbase, rfl⟩
      exact ⟨base, hbase.trans habove, rfl⟩
    rw [parentsOf] at h
    split at h
    · exact hrest h
    rcases List.mem_cons.mp h with rfl | hq
    · exact .inr ⟨_, (List.reverse_prefix.mpr (List.dropWhile_suffix _)).trans habove, rfl⟩
    · exact hrest hq

/-- **The ancestors of a path are above it.** -/
theorem isAbove_of_mem_ancestors (hne : q.text ≠ "") (h : q ∈ p.ancestors) : q.IsAbove p := by
  rcases List.mem_cons.mp h with rfl | hparents
  · exact ⟨hne, List.prefix_rfl, List.prefix_rfl⟩
  rcases mem_parentsOf hparents with rfl | ⟨base, hbase, rfl⟩
  · exact absurd rfl hne
  · exact isAbove_assemble hne (by simpa using hbase)

/-- A path without its last component is above it. -/
theorem isAbove_of_parent? (hne : q.text ≠ "") (h : p.parent? = some q) : q.IsAbove p := by
  rw [parent?] at h
  split at h
  · next lead segment above hlast =>
    obtain rfl := Option.some.inj h
    refine isAbove_assemble hne ?_
    have hbase : above <:+ p.split.2.reverse := by
      refine (List.suffix_cons segment above).trans ?_
      rw [← hlast]
      exact List.dropWhile_suffix _
    have hbase := (List.dropWhile_suffix isIdle).trans hbase
    simpa using List.reverse_prefix.mpr hbase
  · exact absurd (congrArg text (Option.some.inj h)).symm hne
  · cases h

variable {folder : Path} {name : String}

/-- **The folder of a name is above it.** -/
theorem isAbove_join (hne : folder.text ≠ "") (hslash : '/' ∉ name.toList) :
    folder.IsAbove (folder.join ⟨name⟩) := by
  refine ⟨hne, ?_, ?_⟩
  · rw [toList_text_join (isAbsolute_of_not_mem hslash)]
    split <;> exact List.prefix_append _ _
  · rw [ofText_join_of_not_mem hslash folder]
    exact List.prefix_append _ _

end Path

namespace FileSystem

variable {fs fs' : FileSystem} {p q : Path}

/-! ## Directories above what is found -/

/-- Where the steps of a path above another one lead to a directory, that path finds it. -/
theorem isDirectory_of_leads (h : q.IsAbove p) (hflaw : p.flaw? = none) {directory : Place}
    (hdirectory : fs.view directory = some .directory)
    (hleads : Leads fs.view maxLinks (fs.start p) (Step.ofText q.text) (.node directory)) :
    fs.isDirectory q = true := by
  obtain ⟨idle, htext, hidle⟩ := ofWholeText_idle q.text
  have hstart : fs.start q = fs.start p := by rw [start, start, h.isAbsolute_eq]
  refine isDirectory_iff.mpr (found_eq_some_iff.mpr ⟨directory, ?_, hdirectory⟩)
  refine locate_eq_ok_iff.mpr ⟨h.flaw?_eq_none hflaw, ?_⟩
  rw [htext, hstart]
  exact hleads.append_idle rfl hdirectory hidle

/-- **What is above a directory is a directory.** -/
theorem isDirectory_of_isAbove (h : q.IsAbove p) (hp : fs.isDirectory p = true) :
    fs.isDirectory q = true := by
  obtain ⟨place, hplace, hkind⟩ := found_eq_some_iff.mp (isDirectory_iff.mp hp)
  obtain ⟨hflaw, hleads⟩ := locate_eq_ok_iff.mp hplace
  obtain ⟨rest, hsteps⟩ := h.steps
  have hleads := leads_ofText hleads
  rw [← hsteps] at hleads
  rcases eq_or_ne rest [] with rfl | hrest
  · rw [List.append_nil] at hleads
    exact isDirectory_of_leads h hflaw hkind hleads
  · obtain ⟨directory, left, -, hdirectory, hto, -⟩ := hleads.exists_of_append hrest
    exact isDirectory_of_leads h hflaw hdirectory hto

/-- A folder in which something is found is a directory. -/
theorem isDirectory_of_found_join {folder : Path} {name : String} (hfolder : folder.text ≠ "")
    (hslash : '/' ∉ name.toList) (hidle : Path.isIdle name.toList = false)
    (hup : name.toList ≠ ['.', '.']) (hfound : fs.found (folder.join ⟨name⟩) ≠ none) :
    fs.isDirectory folder = true := by
  obtain ⟨kind, hkind⟩ := Option.ne_none_iff_exists'.mp hfound
  obtain ⟨place, hplace, -⟩ := found_eq_some_iff.mp hkind
  obtain ⟨hflaw, hleads⟩ := locate_eq_ok_iff.mp hplace
  obtain ⟨directory, left, hdirectory, hto, -⟩ :=
    exists_leads_entry (Path.lastStep_join hslash hidle hup folder) hleads
  rw [Path.ofText_join_of_not_mem hslash, Path.ofText_of_not_idle hslash hidle hup,
    List.dropLast_concat] at hto
  exact isDirectory_of_leads (Path.isAbove_join hfolder hslash) hflaw hdirectory hto

/-! ## Directories that cannot be made -/

/-- An entry that leads somewhere can be looked up. -/
theorem exists_lookUp_of_leads {links : Nat} {directory : Place} {name : String} {last : Place}
    (h : Leads fs.view links directory [.name name] (.node last)) :
    ∃ node, fs.lookUp directory name = .ok (some node) := by
  obtain ⟨hshort, hthere⟩ :
      isTooLong name = false ∧ fs.view (directory ++ [name]) ≠ none := by
    cases h with
    | stay hstep => simp at hstep
    | follow _ hshort hlink => exact ⟨hshort, by simp [hlink]⟩
    | enter _ hshort hentry => exact ⟨hshort, by simp [hentry]⟩
  obtain ⟨node, hnode⟩ := Option.ne_none_iff_exists'.mp (mt FileNode.kindAt_eq_none_iff.mpr hthere)
  exact ⟨node, by rw [lookUp, if_neg (by simp [hshort]), hnode]⟩

/-- **A directory that is there** is not made. -/
theorem createDirectory_of_isDirectory (h : fs.isDirectory p = true) :
    fs.createDirectory p = .error .alreadyExists := by
  obtain ⟨place, hplace, hkind⟩ := found_eq_some_iff.mp (isDirectory_iff.mp h)
  obtain ⟨hflaw, hleads⟩ := locate_eq_ok_iff.mp hplace
  have hleads := leads_ofText hleads
  rcases List.eq_nil_or_concat (Step.ofText p.text) with hnil | ⟨steps, step, hsteps⟩
  · -- without steps the path stands in itself, and it has no name to make
    have hparent := locateParent_of_leads hflaw hkind (by simpa [hnil] using hleads)
    have hlast : lastStep p = .unnamed := by simp [lastStep, hnil]
    simp [createDirectory, create, hparent, hlast]
  · rw [List.concat_eq_append] at hsteps
    rw [hsteps] at hleads
    obtain ⟨directory, left, -, hdirectory, hto, hfrom⟩ := hleads.exists_of_append (by simp)
    have hparent := locateParent_of_leads hflaw hdirectory (by simpa [hsteps] using hto)
    cases hlast : lastStep p with
    | unnamed => simp [createDirectory, create, hparent, hlast]
    | name name slash =>
      have hname := Path.getLast?_of_lastStep hlast
      rw [hsteps, List.getLast?_concat] at hname
      obtain rfl := Option.some.inj hname
      obtain ⟨node, hnode⟩ := exists_lookUp_of_leads hfrom
      simp [createDirectory, create, hparent, hlast, hnode]

/-- Going up to a directory that is there or can be made changes nothing if it fails. -/
theorem findFooting_eq_error {above missing : List Path} {e : FileError}
    (h : fs.findFooting above missing = (fs', .error e)) : fs' = fs := by
  induction above generalizing missing with
  | nil => cases h
  | cons p above ih =>
    rw [findFooting] at h
    split at h
    · cases h
    split at h
    · cases h
    · exact ih h
    · split at h <;> cases h
      rfl
    · cases h
      rfl

/-- The directories that remain to be made have texts. -/
theorem text_ne_empty_of_findFooting {above missing remaining : List Path}
    (hmissing : ∀ q ∈ missing, q.text ≠ "")
    (h : fs.findFooting above missing = (fs', .ok remaining)) : ∀ q ∈ remaining, q.text ≠ "" := by
  induction above generalizing missing with
  | nil =>
    cases h
    exact hmissing
  | cons p above ih =>
    rw [findFooting] at h
    split at h
    · cases h
      exact hmissing
    next hne =>
    split at h
    · cases h
      exact hmissing
    · exact ih (List.forall_mem_cons.mpr ⟨hne, hmissing⟩) h
    · split at h <;> cases h
      exact hmissing
    · cases h

/-- If directories cannot be made one after the other, one of them is not there. -/
theorem createAll_eq_error {missing : List Path} {e : FileError}
    (h : fs.createAll missing = (fs', .error e)) : ∃ q ∈ missing, fs'.isDirectory q = false := by
  induction missing generalizing fs with
  | nil => cases h
  | cons p missing ih =>
    rw [createAll] at h
    split at h
    · obtain ⟨q, hq, hno⟩ := ih h
      exact ⟨q, List.mem_cons_of_mem _ hq, hno⟩
    next other hother =>
    split at h
    · obtain ⟨q, hq, hno⟩ := ih h
      exact ⟨q, List.mem_cons_of_mem _ hq, hno⟩
    next hfailed =>
    cases h
    refine ⟨p, List.mem_cons_self, Bool.eq_false_iff.mpr fun hthere => hfailed ⟨?_, hthere⟩⟩
    exact Except.error.inj (hother.symm.trans (createDirectory_of_isDirectory hthere))

/-- **If directories cannot be made**, the last of them is not there. -/
theorem not_isDirectory_of_createDirectories {e : FileError}
    (h : fs.createDirectories p = (fs', .error e)) : fs'.isDirectory p = false := by
  refine Bool.eq_false_iff.mpr fun hthere => ?_
  rw [createDirectories] at h
  split at h
  · next footed missing hfooting =>
    -- one of the directories above is not there either
    obtain ⟨q, hq, hno⟩ := createAll_eq_error h
    have hne := text_ne_empty_of_findFooting (by simp) hfooting q hq
    have hmissing := (stays_findFooting fs p.ancestors []).2
    rw [hfooting] at hmissing
    have hancestor : q ∈ p.ancestors := by simpa using hmissing missing rfl hq
    have hdirectory := isDirectory_of_isAbove (Path.isAbove_of_mem_ancestors hne hancestor) hthere
    cases hno.symm.trans hdirectory
  · next footed other hfooting =>
    obtain ⟨rfl, -⟩ := Prod.mk.inj h
    obtain rfl := findFooting_eq_error hfooting
    -- the way up ends at once at a directory that is there
    have hne : p.text ≠ "" := by
      obtain ⟨place, hplace, -⟩ := found_eq_some_iff.mp (isDirectory_iff.mp hthere)
      exact text_ne_empty_of_locate hplace
    simp [Path.ancestors, findFooting, hne, createDirectory_of_isDirectory hthere, hthere]
      at hfooting

theorem text_ne_empty_of_createDirectories {e : FileError}
    (h : fs.createDirectories p = (fs', .error e)) : p.text ≠ "" := by
  intro hempty
  simp [createDirectories, Path.ancestors, findFooting, hempty, createAll] at h

/-! ## Files that are discarded -/

/-- Nothing is found where a file was removed. -/
theorem found_of_removeFile_eq_ok (hlink : ¬ fs.NamesLink p) (h : fs.removeFile p = .ok fs') :
    fs'.found p = none := by
  obtain ⟨place, hentry, hchanges⟩ := removeFile_eq_ok h
  obtain ⟨hview, haim⟩ := aim?_eq_of_not_namesLink hlink hentry
  have hstays := hchanges.stays haim hview (by simp)
  refine Option.eq_none_iff_forall_ne_some.mpr fun kind hkind => ?_
  obtain ⟨last, hlast, hkind⟩ := found_eq_some_iff.mp hkind
  have haim' : fs'.aim? p = some last := (locate_eq_ok_iff.mp hlast).2.aim_eq
  obtain rfl := Option.some.inj ((haim.symm.trans (hstays.aim?_eq p).symm).trans haim')
  simp [hchanges.view] at hkind

/-- A file can be removed where it is found. -/
theorem exists_removeFile_eq_ok {name : String} {content : ByteArray}
    (hlast : lastStep p = .name name false) (hlink : ¬ fs.NamesLink p)
    (hfound : fs.found p = some (.file content)) : ∃ removed, fs.removeFile p = .ok removed := by
  obtain ⟨place, hplace, hkind⟩ := found_eq_some_iff.mp hfound
  obtain ⟨hflaw, hleads⟩ := locate_eq_ok_iff.mp hplace
  obtain ⟨directory, left, hdirectory, hto, hfrom⟩ := exists_leads_entry hlast hleads
  have hparent := locateParent_of_leads hflaw hdirectory hto
  have haim := (aim?_eq_of_not_namesLink hlink (slot?_eq_of_locateParent hparent hlast)).2
  obtain rfl := Option.some.inj (haim.symm.trans hleads.aim_eq)
  obtain ⟨node, hnode⟩ := exists_lookUp_of_leads hfrom
  -- the entry is the file itself
  obtain rfl := Option.some.inj ((get?_of_lookUp hnode).2.symm.trans
    (FileNode.kindAt_eq_file_iff.mp hkind))
  exact ⟨fs.erase (directory ++ [name]), by simp [removeFile, hparent, hlast, hnode]⟩

/-- **A file that is discarded is gone.** -/
theorem found_discard_ne_file {name : String} (hlast : lastStep p = .name name false)
    (hlink : ¬ fs.NamesLink p) (content : ByteArray) :
    (fs.discard p).found p ≠ some (.file content) := by
  intro hfile
  rw [discard] at hfile
  split at hfile
  · next removed hremoved => cases (found_of_removeFile_eq_ok hlink hremoved).symm.trans hfile
  · next e hfailed =>
    obtain ⟨removed, hremoved⟩ := exists_removeFile_eq_ok hlast hlink hfile
    cases hfailed.symm.trans hremoved

/-- Discarding a file brings no file to any place. -/
theorem view_file_of_discard {place : Place} {content : ByteArray}
    (h : (fs.discard p).view place = some (.file content)) :
    fs.view place = some (.file content) := by
  rw [discard] at h
  split at h
  · next removed hremoved =>
    obtain ⟨gone, -, hchanges⟩ := removeFile_eq_ok hremoved
    rw [hchanges.view] at h
    split at h
    · cases h
    · exact h
  · exact h

end FileSystem

end MessageCatalog
