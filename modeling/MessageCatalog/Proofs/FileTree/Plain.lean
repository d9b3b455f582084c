import MessageCatalog.Proofs.FileTree.Frame
import MessageCatalog.Proofs.Path

/-!
# Trees without links

In a tree that holds no links and in which every entry has a name that a path can spell, the entries
of a directory are found at the paths below the path of the directory.

## Main definitions

* `isEntryName` — whether a text can be the name of an entry.
* `FileNode.isPlain` — whether a tree holds no links and all its names are names of entries.
* `FileSystem.nameIn?` — the name of the entry of a folder that a path is meant for.

## Main results

* `FileSystem.view_ne_link`: no place of a plain tree holds a link
* `FileSystem.locate_entry`: an entry that is no link is found at its path below the path of its
  directory
* `FileSystem.locate_join`: in a plain tree every entry is found there
-/

namespace MessageCatalog

/-! ## Names of entries -/

/-- Whether a text can be the name of an entry: it is one segment of a path, and it is not too
long. -/
def isEntryName (name : String) : Bool :=
  !(["", ".", ".."].contains name) && !name.toList.contains '/' && !isTooLong name

theorem isEntryName_iff {name : String} :
    isEntryName name = true ↔
      (name ≠ "" ∧ name ≠ "." ∧ name ≠ "..") ∧ '/' ∉ name.toList ∧ isTooLong name = false := by
  simp [isEntryName, and_assoc]

/-- The name of an entry is one step. -/
theorem ofText_of_isEntryName {name : String} (h : isEntryName name = true) :
    Step.ofText name = [.name name] := by
  obtain ⟨⟨hempty, hhere, hup⟩, hslash, -⟩ := isEntryName_iff.mp h
  refine Path.ofText_of_not_idle hslash ?_ fun heq => hup (String.toList_inj.mp heq)
  simp only [Path.isIdle, Bool.or_eq_false_iff, beq_eq_false_iff_ne]
  exact ⟨fun heq => hempty (String.toList_inj.mp heq), fun heq => hhere (String.toList_inj.mp heq)⟩

namespace Path

variable {folder : Path} {name : String}

/-- The steps below a folder are those of the folder and then the name. -/
theorem ofText_join (hname : isEntryName name = true) :
    Step.ofText (folder.join ⟨name⟩).text = Step.ofText folder.text ++ [.name name] := by
  rw [ofText_join_of_not_mem (isEntryName_iff.mp hname).2.1, ofText_of_isEntryName hname]

/-- The path of an entry names it. -/
theorem fileName?_join (hname : isEntryName name = true) :
    (folder.join ⟨name⟩).fileName? = some name := by
  have hlast : FileSystem.lastStep (folder.join ⟨name⟩) =
      .name name ((folder.join ⟨name⟩).text.toList.getLast? = some '/') := by
    rw [FileSystem.lastStep, ofText_join hname, List.getLast?_concat]
  exact fileName?_of_lastStep hlast

/-- The path of an entry ends in its name, so no slash is behind it. -/
theorem ofWholeText_join (hname : isEntryName name = true) :
    Step.ofWholeText (folder.join ⟨name⟩).text = Step.ofText folder.text ++ [.name name] := by
  obtain ⟨⟨hempty, -⟩, hslash, -⟩ := isEntryName_iff.mp hname
  rw [Step.ofWholeText, if_neg (getLast?_text_join_ne hslash folder hempty), List.append_nil,
    ofText_join hname]

theorem isAbsolute_join (hname : isEntryName name = true) (hfolder : folder.text ≠ "") :
    (folder.join ⟨name⟩).isAbsolute = folder.isAbsolute := by
  obtain ⟨c, cs, htext⟩ : ∃ c cs, folder.text.toList = c :: cs :=
    List.exists_cons_of_ne_nil (by simpa using hfolder)
  rw [isAbsolute, isAbsolute, toList_text_join (isAbsolute_of_not_mem (isEntryName_iff.mp hname).2.1), htext]
  split <;> rfl

end Path

/-! ## Plain trees -/

namespace FileNode

mutual

/-- Whether a tree holds no links, and all its names are names of entries. -/
def isPlain : FileNode → Bool
  | .file _ => true
  | .link _ => false
  | .directory entries => arePlain entries

/-- Whether some entries have names of entries and hold plain trees. -/
def arePlain : List (String × FileNode) → Bool
  | [] => true
  | (name, node) :: rest => isEntryName name && isPlain node && arePlain rest

end

theorem isPlain_of_mem {entries : List (String × FileNode)} (h : arePlain entries = true)
    {entry : String × FileNode} (hentry : entry ∈ entries) :
    isEntryName entry.1 = true ∧ entry.2.isPlain = true := by
  induction entries with
  | nil => cases hentry
  | cons first rest ih =>
    simp only [arePlain, Bool.and_eq_true] at h
    rcases List.mem_cons.mp hentry with rfl | hrest
    · exact h.1
    · exact ih h.2 hrest

/-- Every part of a plain tree is plain. -/
theorem isPlain_of_get? {root node : FileNode} {place : Place} (h : root.isPlain = true)
    (hnode : root.get? place = some node) : node.isPlain = true := by
  induction place generalizing root with
  | nil =>
    obtain rfl := Option.some.inj ((get?_nil root).symm.trans hnode)
    exact h
  | cons name rest ih =>
    cases root with
    | directory entries =>
      rw [get?_directory_cons] at hnode
      obtain ⟨child, hchild, hrest⟩ := Option.bind_eq_some_iff.mp hnode
      exact ih (isPlain_of_mem h (Rows.mem_of_get?_eq_some hchild)).2 hrest
    | file | link => cases hnode

theorem kindAt_ne_link_of_isPlain {root : FileNode} (h : root.isPlain = true) (place : Place)
    (target : String) : root.kindAt place ≠ some (.link target) := by
  intro hlink
  obtain ⟨node, hnode, hkind⟩ := Option.map_eq_some_iff.mp hlink
  have hplain := isPlain_of_get? h hnode
  cases node with
  | link => cases hplain
  | file | directory => cases hkind

theorem isEntryName_of_kindAt {root : FileNode} (h : root.isPlain = true) {place : Place}
    {name : String} (hentry : root.kindAt (place ++ [name]) ≠ none) : isEntryName name = true := by
  obtain ⟨entries, hentries⟩ := kindAt_eq_directory_iff.mp (kindAt_concat_ne_none hentry)
  rw [kindAt_concat hentries, Ne, Option.map_eq_none_iff] at hentry
  obtain ⟨child, hchild⟩ := Option.ne_none_iff_exists'.mp hentry
  have hplain := isPlain_of_get? h hentries
  exact (isPlain_of_mem hplain (Rows.mem_of_get?_eq_some hchild)).1

end FileNode

/-! ## Paths in a plain tree -/

namespace FileSystem

variable {fs : FileSystem} {folder p : Path} {directory : Place} {name : String}

theorem view_ne_link (h : fs.root.isPlain = true) (place : Place) (target : String) :
    fs.view place ≠ some (.link target) :=
  FileNode.kindAt_ne_link_of_isPlain h place target

theorem not_namesLink (h : fs.root.isPlain = true) (p : Path) : ¬ fs.NamesLink p := by
  rw [namesLink_iff_exists]
  rintro ⟨place, target, -, hlink⟩
  exact view_ne_link h place target hlink

/-- Only a path that is not empty finds anything. -/
theorem text_ne_empty_of_locate (h : fs.locate folder = .ok directory) : folder.text ≠ "" := by
  intro hempty
  have hflaw := (locate_eq_ok_iff.mp h).1
  rw [Path.flaw?, hempty] at hflaw
  split at hflaw
  · cases hflaw
  · simp at hflaw

theorem start_join (hname : isEntryName name = true) (hfolder : folder.text ≠ "") :
    fs.start (folder.join ⟨name⟩) = fs.start folder := by
  rw [start, start, Path.isAbsolute_join hname hfolder]

/-- The path of an entry is meant for the entry. -/
theorem aim?_join (h : fs.root.isPlain = true) (hname : isEntryName name = true)
    (hfolder : folder.text ≠ "") (haim : fs.aim? folder = some directory) :
    fs.aim? (folder.join ⟨name⟩) = some (directory ++ [name]) := by
  obtain ⟨idle, htext, hidle⟩ := ofWholeText_idle folder.text
  rw [aim?, htext, aim_append_idle hidle] at haim
  rw [aim?, start_join hname hfolder, Path.ofWholeText_join hname]
  exact aim_concat haim (view_ne_link h _)

/-- An entry that is no link is found at its path below the path of its directory, if that is not
too long. -/
theorem locate_entry (hfolder : fs.locate folder = .ok directory) (hname : isEntryName name = true)
    {kind : Kind} (hentry : fs.view (directory ++ [name]) = some kind)
    (hkind : ∀ target, kind ≠ .link target) (hflaw : (folder.join ⟨name⟩).flaw? = none) :
    fs.locate (folder.join ⟨name⟩) = .ok (directory ++ [name]) := by
  have hdirectory : fs.view directory = some .directory :=
    FileNode.kindAt_concat_ne_none (by rw [← view, hentry]; simp)
  have htext := text_ne_empty_of_locate hfolder
  obtain ⟨-, hleads⟩ := locate_eq_ok_iff.mp hfolder
  refine locate_eq_ok_iff.mpr ⟨hflaw, ?_⟩
  rw [start_join hname htext, Path.ofWholeText_join hname]
  exact (leads_ofText hleads).concat rfl hdirectory (isEntryName_iff.mp hname).2.2 hentry hkind

/-- **An entry is found at its path below the path of its directory**, if that is not too long. -/
theorem locate_join (h : fs.root.isPlain = true) (hfolder : fs.locate folder = .ok directory)
    {kind : Kind} (hentry : fs.view (directory ++ [name]) = some kind)
    (hflaw : (folder.join ⟨name⟩).flaw? = none) :
    fs.locate (folder.join ⟨name⟩) = .ok (directory ++ [name]) := by
  have hname : isEntryName name = true :=
    FileNode.isEntryName_of_kindAt h (by rw [← view, hentry]; simp)
  apply locate_entry hfolder hname hentry _ hflaw
  rintro target rfl
  exact view_ne_link h _ target hentry

/-- The name of the entry of a folder that a path is meant for. -/
def nameIn? (fs : FileSystem) (folder p : Path) : Option String :=
  match fs.aim? folder, fs.aim? p with
  | some directory, some place => if place.dropLast = directory then place.getLast? else none
  | _, _ => none

theorem nameIn?_eq (hfolder : fs.aim? folder = some directory)
    (hp : fs.aim? p = some (directory ++ [name])) : fs.nameIn? folder p = some name := by
  simp [nameIn?, hfolder, hp]

end FileSystem

end MessageCatalog
