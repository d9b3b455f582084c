import MessageCatalog.Proofs.FileTree.View
import MessageCatalog.Proofs.Rows

/-!
# The entries of directories

The view of a tree says what is at a place that is asked for. A run also asks a directory for the
names in it, and these have an order. Here a tree is read as the listings of its directories, and
changing one place changes one row of one listing.

## Main definitions

* `FileNode.listing` — the names in the directory at a place, each with the kind of its node.
* `FileNode.filesIn` — the names of the files in the directory at a place.

## Main results

* `FileNode.get?_listing`: a listing agrees with the view
* `FileNode.listing_put`, `FileNode.listing_erase`: only the listing of one directory changes
-/

namespace MessageCatalog

/-- Whether a kind is that of a regular file. -/
def Kind.isFile : Kind → Bool
  | .file _ => true
  | _ => false

namespace FileNode

theorem isFile_kind (node : FileNode) : node.kind.isFile = node.isFile := by
  cases node <;> rfl

/-- The names in the directory at a place, each with the kind of its node; there are none if there
is no directory. -/
def listing (root : FileNode) (place : Place) : Rows Kind :=
  match root.get? place with
  | some (.directory entries) => entries.map fun entry => (entry.1, entry.2.kind)
  | _ => []

/-- The names of the regular files in the directory at a place. -/
def filesIn (root : FileNode) (place : Place) : List String :=
  ((root.listing place).filter fun entry => entry.2.isFile).map Prod.fst

theorem listing_of_get? {root : FileNode} {place : Place} {entries : List (String × FileNode)}
    (h : root.get? place = some (.directory entries)) :
    root.listing place = entries.map fun entry => (entry.1, entry.2.kind) := by
  rw [listing, h]

theorem listing_of_ne_directory {root : FileNode} {place : Place}
    (h : root.kindAt place ≠ some .directory) : root.listing place = [] := by
  rw [listing]
  split
  · next entries hentries => exact absurd (kindAt_eq_directory_iff.mpr ⟨entries, hentries⟩) h
  · rfl

/-- What is no directory has no listing, and nothing below it has one. -/
theorem listing_append_of_ne_directory {root : FileNode} {place : Place}
    (h : root.kindAt place ≠ some .directory) (rest : Place) :
    root.listing (place ++ rest) = [] := by
  apply listing_of_ne_directory
  cases rest with
  | nil =>
    rw [List.append_nil]
    exact h
  | cons name rest =>
    rw [kindAt_append_of_ne_directory h (by simp)]
    simp

/-- **A listing agrees with the view** of the places below its directory. -/
theorem get?_listing (root : FileNode) (place : Place) (name : String) :
    Rows.get? name (root.listing place) = root.kindAt (place ++ [name]) := by
  by_cases h : root.kindAt place = some .directory
  · obtain ⟨entries, hentries⟩ := kindAt_eq_directory_iff.mp h
    rw [listing_of_get? hentries, Rows.get?_map, kindAt_concat hentries]
  · rw [listing_of_ne_directory h, kindAt_append_of_ne_directory h (by simp), Rows.get?_nil]

theorem kindAt_ne_none_of_mem_filesIn {root : FileNode} {place : Place} {name : String}
    (h : name ∈ root.filesIn place) : root.kindAt (place ++ [name]) ≠ none := by
  obtain ⟨row, hrow, rfl⟩ := List.mem_map.mp h
  rw [← get?_listing]
  intro hnone
  exact Rows.get?_eq_none_iff.mp hnone (List.mem_map_of_mem (List.mem_filter.mp hrow).1)

theorem mem_filesIn_of_kindAt {root : FileNode} {place : Place} {name : String}
    {content : ByteArray} (h : root.kindAt (place ++ [name]) = some (.file content)) :
    name ∈ root.filesIn place := by
  rw [← get?_listing] at h
  exact List.mem_map.mpr ⟨_, List.mem_filter.mpr ⟨Rows.mem_of_get?_eq_some h, rfl⟩, rfl⟩

theorem listing_directory_cons {entries : List (String × FileNode)} {name : String}
    {child : FileNode} (h : Rows.get? name entries = some child) (rest : Place) :
    (directory entries).listing (name :: rest) = child.listing rest := by
  rw [listing, get?_directory_cons, h]
  rfl

theorem listing_directory_cons_of_none {entries : List (String × FileNode)} {name : String}
    (h : Rows.get? name entries = none) (rest : Place) :
    (directory entries).listing (name :: rest) = [] := by
  rw [listing, get?_directory_cons, h]
  rfl

/-! ## Changing one place -/

theorem IsBare.listing_eq_nil {node : FileNode} (h : node.IsBare) (place : Place) :
    node.listing place = [] := by
  cases place with
  | nil =>
    rw [listing, get?_nil]
    split
    · next entries hentries =>
      obtain rfl := Option.some.inj hentries
      -- an entry would be found below the node
      cases entries with
      | nil => rfl
      | cons entry rest =>
        have hnone := h entry.1
        rw [get?_directory_cons, Rows.get?_cons_self] at hnone
        simp at hnone
    · rfl
  | cons name rest =>
    apply listing_of_ne_directory
    rw [h.kindAt_cons]
    simp

/-- A change below a child changes no other listing. -/
theorem listing_directory_set_child {entries : List (String × FileNode)} {name : String}
    {child changed : FileNode} (hchild : Rows.get? name entries = some child)
    (hkind : changed.kind = child.kind) {below : Place} {f : Rows Kind → Rows Kind}
    (h : ∀ place, changed.listing place =
      if place = below then f (child.listing place) else child.listing place)
    (place : Place) :
    (directory (Rows.set name changed entries)).listing place =
      if place = name :: below then f ((directory entries).listing place)
      else (directory entries).listing place := by
  cases place with
  | nil =>
    -- the child has its old name and kind
    rw [if_neg (by simp), listing_of_get? (get?_nil _), listing_of_get? (get?_nil _), Rows.map_set]
    apply Rows.set_eq_self
    rw [Rows.get?_map, hchild, hkind]
    rfl
  | cons other rest =>
    by_cases hother : other = name
    · subst hother
      rw [listing_directory_cons (Rows.get?_set_self ..), listing_directory_cons hchild, h]
      simp
    · have hrest : (directory (Rows.set name changed entries)).listing (other :: rest) =
          (directory entries).listing (other :: rest) := by
        rw [listing, listing, get?_directory_cons, get?_directory_cons, Rows.get?_set_of_ne hother]
      rw [hrest, if_neg (by simp [hother])]

/-- **Putting a node into a directory** sets one row of the listing of that directory. -/
theorem listing_put {new root : FileNode} {directory : Place} {name : String} (hnew : new.IsBare)
    (hdirectory : root.kindAt directory = some .directory)
    (hold : root.kindAt (directory ++ [name]) ≠ some .directory) (place : Place) :
    (put new (directory ++ [name]) root).listing place =
      if place = directory then Rows.set name new.kind (root.listing place)
      else root.listing place := by
  induction directory generalizing root place with
  | nil =>
    obtain ⟨entries, hroot⟩ := kindAt_eq_directory_iff.mp hdirectory
    obtain rfl := Option.some.inj ((get?_nil root).symm.trans hroot)
    cases place with
    | nil =>
      rw [if_pos rfl, List.nil_append, put, listing_of_get? (get?_nil _),
        listing_of_get? (get?_nil _), Rows.map_set]
    | cons other rest =>
      rw [if_neg (by simp), List.nil_append, put]
      by_cases hother : other = name
      · subst hother
        -- neither the new node nor the old one has a listing below it
        rw [listing_directory_cons (Rows.get?_set_self ..), hnew.listing_eq_nil]
        exact (listing_append_of_ne_directory hold rest).symm
      · rw [listing, listing, get?_directory_cons, get?_directory_cons, Rows.get?_set_of_ne hother]
  | cons first directory ih =>
    obtain ⟨entries, child, rfl, hchild, hbelow⟩ := exists_child_of_kindAt_cons hdirectory
    have hput : put new (first :: directory ++ [name]) (.directory entries) =
        .directory (Rows.set first (put new (directory ++ [name]) child) entries) := by
      cases directory <;> simp [put, hchild]
    rw [List.cons_append, kindAt_directory_cons, hchild, Option.bind_some] at hold
    have hkind : (put new (directory ++ [name]) child).kind = child.kind := by
      have hview := kindAt_put hnew hbelow hold []
      rw [if_neg (by simp)] at hview
      simpa [kindAt] using hview
    rw [hput]
    exact listing_directory_set_child hchild hkind (ih hbelow hold) place

/-- **Taking a node away** removes one row of the listing of its directory. -/
theorem listing_erase {root : FileNode} {directory : Place} {name : String}
    (hdirectory : root.kindAt directory = some .directory)
    (hold : root.kindAt (directory ++ [name]) ≠ some .directory) (place : Place) :
    (erase (directory ++ [name]) root).listing place =
      if place = directory then Rows.remove name (root.listing place)
      else root.listing place := by
  induction directory generalizing root place with
  | nil =>
    obtain ⟨entries, hroot⟩ := kindAt_eq_directory_iff.mp hdirectory
    obtain rfl := Option.some.inj ((get?_nil root).symm.trans hroot)
    cases place with
    | nil =>
      rw [if_pos rfl, List.nil_append, erase, listing_of_get? (get?_nil _),
        listing_of_get? (get?_nil _), Rows.map_remove]
    | cons other rest =>
      rw [if_neg (by simp), List.nil_append, erase]
      by_cases hother : other = name
      · subst hother
        rw [listing_directory_cons_of_none (Rows.get?_remove_self ..)]
        exact (listing_append_of_ne_directory hold rest).symm
      · rw [listing, listing, get?_directory_cons, get?_directory_cons,
          Rows.get?_remove_of_ne hother]
  | cons first directory ih =>
    obtain ⟨entries, child, rfl, hchild, hbelow⟩ := exists_child_of_kindAt_cons hdirectory
    have herase : erase (first :: directory ++ [name]) (.directory entries) =
        .directory (Rows.set first (erase (directory ++ [name]) child) entries) := by
      cases directory <;> simp [erase, hchild]
    rw [List.cons_append, kindAt_directory_cons, hchild, Option.bind_some] at hold
    have hkind : (erase (directory ++ [name]) child).kind = child.kind := by
      have hview := kindAt_erase hbelow hold []
      rw [if_neg (by simp)] at hview
      simpa [kindAt] using hview
    rw [herase]
    exact listing_directory_set_child hchild hkind (ih hbelow hold) place

/-- The listings after a change, seen from any directory: it holds the place of the change or not. -/
theorem listing_of_change {before after : FileNode} {directory : Place} {name : String}
    {f : String → Rows Kind → Rows Kind}
    (h : ∀ other, after.listing other =
      if other = directory then f name (before.listing other) else before.listing other) :
    (∀ other last, directory ++ [name] = other ++ [last] →
      after.listing other = f last (before.listing other)) ∧
    ∀ other, (∀ last, directory ++ [name] ≠ other ++ [last]) →
      after.listing other = before.listing other := by
  constructor
  · intro other last hplace
    obtain ⟨rfl, hlast⟩ := List.append_inj' hplace rfl
    obtain rfl := List.singleton_inj.mp hlast
    rw [h, if_pos rfl]
  · intro other hplace
    rw [h, if_neg]
    rintro rfl
    exact hplace name rfl

end FileNode

end MessageCatalog
