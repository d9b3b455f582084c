import MessageCatalog.Proofs.FileTree.Listing
import MessageCatalog.Proofs.FileTree.Plain

/-!
# Trees with proper names

A file system gives every entry of a directory a name that is one segment of a path, and no two
entries the same. In such a tree the listing of a directory and the view of the places below it hold
the same files.

## Main definitions

* `FileNode.isWellNamed` — whether all entries have names of entries, each once in its directory.

## Main results

* `FileNode.mem_filesIn_iff`: a file is listed if it is found
* `FileNode.isEntryName_of_isWellNamed`: what is found has the name of an entry
* `FileNode.isWellNamed_put`, `FileNode.isWellNamed_erase`: what a change of one place leaves
* `FileSystem.isWellNamed_create`, `isWellNamed_writeFile`, `isWellNamed_discard`,
  `isWellNamed_rename`, `isWellNamed_createDirectories`: what the operations leave
-/

namespace MessageCatalog

namespace FileNode

mutual

/-- Whether all entries of a tree have names of entries, each once in its directory. -/
def isWellNamed : FileNode → Bool
  | .directory entries => areWellNamed entries
  | _ => true

/-- Whether some entries have distinct names of entries and hold trees with proper names. -/
def areWellNamed : List (String × FileNode) → Bool
  | [] => true
  | (name, node) :: rest =>
    isEntryName name && !(Rows.names rest).contains name && isWellNamed node && areWellNamed rest

end

theorem areWellNamed_iff {entries : List (String × FileNode)} :
    areWellNamed entries = true ↔ (Rows.names entries).Nodup ∧
      ∀ entry ∈ entries, isEntryName entry.1 = true ∧ entry.2.isWellNamed = true := by
  induction entries with
  | nil => simp [areWellNamed]
  | cons entry rest ih =>
    obtain ⟨name, node⟩ := entry
    simp only [areWellNamed, Bool.and_eq_true, Bool.not_eq_true', List.contains_eq_mem,
      decide_eq_false_iff_not, ih, Rows.names_cons, List.nodup_cons, List.forall_mem_cons]
    tauto

variable {root : FileNode} {place : Place} {name : String}

/-- Every part of a tree with proper names has proper names. -/
theorem isWellNamed_of_get? (h : root.isWellNamed = true) {node : FileNode}
    (hnode : root.get? place = some node) : node.isWellNamed = true := by
  induction place generalizing root with
  | nil =>
    obtain rfl := Option.some.inj ((get?_nil root).symm.trans hnode)
    exact h
  | cons name rest ih =>
    cases root with
    | directory entries =>
      rw [get?_directory_cons] at hnode
      obtain ⟨child, hchild, hrest⟩ := Option.bind_eq_some_iff.mp hnode
      exact ih ((areWellNamed_iff.mp h).2 _ (Rows.mem_of_get?_eq_some hchild)).2 hrest
    | file | link => cases hnode

theorem nodup_names_listing (h : root.isWellNamed = true) (place : Place) :
    (Rows.names (root.listing place)).Nodup := by
  by_cases hdirectory : root.kindAt place = some .directory
  · obtain ⟨entries, hentries⟩ := kindAt_eq_directory_iff.mp hdirectory
    have hnames : Rows.names (root.listing place) = Rows.names entries := by
      rw [listing_of_get? hentries, Rows.names, List.map_map]
      rfl
    rw [hnames]
    exact (areWellNamed_iff.mp (isWellNamed_of_get? h hentries)).1
  · rw [listing_of_ne_directory hdirectory]
    exact List.nodup_nil

/-- **A file is listed if it is found.** -/
theorem mem_filesIn_iff (h : root.isWellNamed = true) :
    name ∈ root.filesIn place ↔
      ∃ content, root.kindAt (place ++ [name]) = some (.file content) := by
  constructor
  · intro hname
    obtain ⟨⟨other, kind⟩, hrow, rfl⟩ := List.mem_map.mp hname
    obtain ⟨hmem, hfile⟩ := List.mem_filter.mp hrow
    have hkind : root.kindAt (place ++ [other]) = some kind := by
      rw [← get?_listing]
      exact Rows.get?_of_mem (nodup_names_listing h place) hmem
    cases kind with
    | file content => exact ⟨content, hkind⟩
    | link | directory => cases hfile
  · rintro ⟨content, hcontent⟩
    exact mem_filesIn_of_kindAt hcontent

/-- What is found has the name of an entry. -/
theorem isEntryName_of_isWellNamed (h : root.isWellNamed = true)
    (hentry : root.kindAt (place ++ [name]) ≠ none) : isEntryName name = true := by
  obtain ⟨entries, hentries⟩ := kindAt_eq_directory_iff.mp (kindAt_concat_ne_none hentry)
  rw [kindAt_concat hentries, Ne, Option.map_eq_none_iff] at hentry
  obtain ⟨child, hchild⟩ := Option.ne_none_iff_exists'.mp hentry
  exact ((areWellNamed_iff.mp (isWellNamed_of_get? h hentries)).2 _
    (Rows.mem_of_get?_eq_some hchild)).1

/-! ## Changing one place -/

theorem areWellNamed_set {entries : List (String × FileNode)} {node : FileNode}
    (h : areWellNamed entries = true) (hname : isEntryName name = true)
    (hnode : node.isWellNamed = true) : areWellNamed (Rows.set name node entries) = true := by
  obtain ⟨hnodup, hentries⟩ := areWellNamed_iff.mp h
  refine areWellNamed_iff.mpr ⟨Rows.nodup_names_set hnodup, fun entry hentry => ?_⟩
  rcases Rows.mem_of_mem_set hentry with rfl | hold
  · exact ⟨hname, hnode⟩
  · exact hentries entry hold

theorem areWellNamed_remove {entries : List (String × FileNode)}
    (h : areWellNamed entries = true) : areWellNamed (Rows.remove name entries) = true := by
  obtain ⟨hnodup, hentries⟩ := areWellNamed_iff.mp h
  refine areWellNamed_iff.mpr ⟨hnodup.sublist (List.filter_sublist.map _), fun entry hentry => ?_⟩
  exact hentries entry (List.mem_filter.mp hentry).1

/-- A change below an entry keeps proper names if it keeps those of the entry. -/
theorem areWellNamed_set_child {entries : List (String × FileNode)} {child changed : FileNode}
    (h : areWellNamed entries = true) (hchild : Rows.get? name entries = some child)
    (hchanged : child.isWellNamed = true → changed.isWellNamed = true) :
    areWellNamed (Rows.set name changed entries) = true := by
  obtain ⟨hname, hnode⟩ := (areWellNamed_iff.mp h).2 _ (Rows.mem_of_get?_eq_some hchild)
  exact areWellNamed_set h hname (hchanged hnode)

/-- **A node that is put into a directory** under the name of an entry keeps proper names. -/
theorem isWellNamed_put {new : FileNode} (hnew : new.isWellNamed = true)
    (hname : isEntryName name = true) (h : root.isWellNamed = true) :
    (put new (place ++ [name]) root).isWellNamed = true := by
  induction place generalizing root with
  | nil =>
    cases root with
    | directory entries => exact areWellNamed_set h hname hnew
    | file | link => exact h
  | cons first place ih =>
    cases root with
    | directory entries =>
      cases hchild : Rows.get? first entries with
      | none =>
        have hput : put new (first :: place ++ [name]) (.directory entries) =
            .directory entries := by
          cases place <;> simp [put, hchild]
        rw [hput]
        exact h
      | some child =>
        have hput : put new (first :: place ++ [name]) (.directory entries) =
            .directory (Rows.set first (put new (place ++ [name]) child) entries) := by
          cases place <;> simp [put, hchild]
        rw [hput]
        exact areWellNamed_set_child h hchild ih
    | file | link => cases place <;> exact h

/-- **A node that is taken away** leaves proper names. -/
theorem isWellNamed_erase (h : root.isWellNamed = true) :
    (erase (place ++ [name]) root).isWellNamed = true := by
  induction place generalizing root with
  | nil =>
    cases root with
    | directory entries => exact areWellNamed_remove h
    | file | link => exact h
  | cons first place ih =>
    cases root with
    | directory entries =>
      cases hchild : Rows.get? first entries with
      | none =>
        have herase : erase (first :: place ++ [name]) (.directory entries) =
            .directory entries := by
          cases place <;> simp [erase, hchild]
        rw [herase]
        exact h
      | some child =>
        have herase : erase (first :: place ++ [name]) (.directory entries) =
            .directory (Rows.set first (erase (place ++ [name]) child) entries) := by
          cases place <;> simp [erase, hchild]
        rw [herase]
        exact areWellNamed_set_child h hchild ih
    | file | link => cases place <;> exact h

end FileNode

/-! ## Names that a path spells -/

/-- A path spells only names of entries, and names that are too long. -/
theorem Step.isEntryName_of_mem_ofText {text name : String} (h : .name name ∈ Step.ofText text)
    (hshort : isTooLong name = false) : isEntryName name = true := by
  obtain ⟨segment, hsegment, hstep⟩ := List.mem_filterMap.mp h
  rw [Step.ofSegment?] at hstep
  split at hstep
  · cases hstep
  next hempty =>
  split at hstep
  · cases hstep
  next hhere =>
  split at hstep
  · cases hstep
  next hup =>
  obtain rfl := Step.name.inj (Option.some.inj hstep)
  have hne : ∀ other : String, segment ≠ other.toList → String.ofList segment ≠ other := by
    rintro other hother rfl
    exact hother String.toList_ofList.symm
  refine isEntryName_iff.mpr ⟨⟨hne _ hempty, hne _ hhere, hne _ hup⟩, ?_, hshort⟩
  rw [String.toList_ofList]
  exact Path.slash_not_mem_of_mem_splitAtSlashes hsegment

theorem Step.mem_ofText_of_mem_ofWholeText {text name : String}
    (h : .name name ∈ Step.ofWholeText text) : .name name ∈ Step.ofText text := by
  rcases List.mem_append.mp h with hname | hslash
  · exact hname
  · split at hslash
    · simp at hslash
    · cases hslash

/-- A walk that ends at a free name ends at the name of an entry. -/
theorem Leads.isEntryName_of_vacant {v : View} {links : Nat} {place : Place} {steps : List Step}
    {landing : Landing} (h : Leads v links place steps landing) {directory : Place} {name : String}
    (hlanding : landing = .vacant directory name)
    (hsteps : ∀ other, .name other ∈ steps → isTooLong other = false → isEntryName other = true) :
    isEntryName name = true := by
  induction h with
  | arrive => cases hlanding
  | vacant _ hshort _ =>
    cases hlanding
    exact hsteps name List.mem_cons_self hshort
  | stay _ _ _ ih | up _ _ ih | enter _ _ _ _ _ ih =>
    exact ih hlanding fun other hother => hsteps other (List.mem_cons_of_mem _ hother)
  | follow _ _ _ _ ih =>
    refine ih hlanding fun other hother hshort => ?_
    rcases List.mem_append.mp hother with htarget | hrest
    · exact Step.isEntryName_of_mem_ofText (Step.mem_ofText_of_mem_ofWholeText htarget) hshort
    · exact hsteps other (List.mem_cons_of_mem _ hrest) hshort

/-! ## What the operations leave -/

namespace FileSystem

variable {fs fs' : FileSystem} {p : Path}

theorem isEntryName_of_lookUp {directory : Place} {name : String} {slash : Bool}
    {entry : Option FileNode} (hlast : lastStep p = .name name slash)
    (hlookUp : fs.lookUp directory name = .ok entry) : isEntryName name = true :=
  Step.isEntryName_of_mem_ofText (List.mem_of_getLast? (Path.getLast?_of_lastStep hlast))
    (get?_of_lookUp hlookUp).1

section WellNamed

variable (hnamed : fs.root.isWellNamed = true)

include hnamed

theorem isWellNamed_create {node : FileNode} (hnode : node.isWellNamed = true)
    (h : fs.create p node = .ok fs') : fs'.root.isWellNamed = true := by
  rw [create] at h
  split at h
  · cases h
  split at h
  · cases h
  next name slash hlast =>
  split at h
  · cases h
  · cases h
  next hlookUp =>
  split at h
  · cases h
  obtain rfl := Except.ok.inj h
  exact FileNode.isWellNamed_put hnode (isEntryName_of_lookUp hlast hlookUp) hnamed

theorem isWellNamed_writeFile {content : ByteArray} (h : fs.writeFile p content = .ok fs') :
    fs'.root.isWellNamed = true := by
  rw [writeFile] at h
  split at h
  · cases h
  · next directory name hwalk =>
    obtain rfl := Except.ok.inj h
    have hname : isEntryName name = true :=
      (leads_of_walk hwalk).isEntryName_of_vacant rfl fun other hother =>
        Step.isEntryName_of_mem_ofText (Step.mem_ofText_of_mem_ofWholeText hother)
    exact FileNode.isWellNamed_put rfl hname hnamed
  · next place hwalk =>
    split at h
    · next old hfile =>
      obtain rfl := Except.ok.inj h
      -- a file that is replaced stands under its name already
      rcases List.eq_nil_or_concat place with rfl | ⟨directory, name, rfl⟩
      · rfl
      · rw [List.concat_eq_append] at hfile ⊢
        have hthere : fs.root.kindAt (directory ++ [name]) ≠ none := by
          simp [FileNode.kindAt_eq_file_iff.mpr hfile]
        exact FileNode.isWellNamed_put rfl
          (FileNode.isEntryName_of_isWellNamed hnamed hthere) hnamed
    · cases h

theorem isWellNamed_discard (p : Path) : (fs.discard p).root.isWellNamed = true := by
  rw [discard]
  split
  · next removed hremoved =>
    rw [removeFile] at hremoved
    split at hremoved
    · cases hremoved
    split at hremoved
    · cases hremoved
    split at hremoved
    · cases hremoved
    · cases hremoved
    · cases hremoved
    split at hremoved
    · cases hremoved
    obtain rfl := Except.ok.inj hremoved
    exact FileNode.isWellNamed_erase hnamed
  · exact hnamed

theorem isWellNamed_rename {source target : Path} (h : fs.rename source target = .ok fs') :
    fs'.root.isWellNamed = true := by
  rw [rename] at h
  split at h
  · cases h
  · cases h
  split at h
  rotate_left
  · cases h
  next hsourceLast htargetLast =>
  split at h
  · cases h
  · cases h
  · cases h
  · cases h
  next node replaced hnode hsourceEntry htargetEntry =>
  split at h
  · cases h
  split at h
  · cases h
  obtain rfl := Except.ok.inj h
  exact FileNode.isWellNamed_put
    (FileNode.isWellNamed_of_get? hnamed (get?_of_lookUp hsourceEntry).2)
    (isEntryName_of_lookUp htargetLast htargetEntry) (FileNode.isWellNamed_erase hnamed)

theorem isWellNamed_findFooting (above missing : List Path) :
    (fs.findFooting above missing).1.root.isWellNamed = true := by
  induction above generalizing missing with
  | nil => exact hnamed
  | cons p above ih =>
    rw [findFooting]
    split
    · exact hnamed
    split
    · next made hmade => exact isWellNamed_create hnamed rfl hmade
    · exact ih (p :: missing)
    · split <;> exact hnamed
    · exact hnamed

omit hnamed in
theorem isWellNamed_createAll (hnamed : fs.root.isWellNamed = true) (missing : List Path) :
    (fs.createAll missing).1.root.isWellNamed = true := by
  induction missing generalizing fs with
  | nil => exact hnamed
  | cons p missing ih =>
    rw [createAll]
    split
    · next made hmade => exact ih (isWellNamed_create hnamed rfl hmade)
    · split
      · exact ih hnamed
      · exact hnamed

/-- **The directories that are made above a path** have proper names. -/
theorem isWellNamed_createDirectories {result : Except FileError Unit}
    (h : fs.createDirectories p = (fs', result)) : fs'.root.isWellNamed = true := by
  have hfooted := isWellNamed_findFooting hnamed p.ancestors []
  rw [createDirectories] at h
  split at h
  · next footed missing hfooting =>
    rw [hfooting] at hfooted
    have hmade := isWellNamed_createAll hfooted missing
    rwa [h] at hmade
  · next footed e hfooting =>
    rw [hfooting] at hfooted
    obtain ⟨rfl, -⟩ := Prod.mk.inj h
    exact hfooted

end WellNamed

end FileSystem

end MessageCatalog
