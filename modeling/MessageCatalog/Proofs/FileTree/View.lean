import MessageCatalog.FileTree.Operations

/-!
# A file tree as a view

What an operation reads off a tree and what it changes are said by one function: the kind of the
node at every place. The entries of a directory are not part of its kind, since they have places of
their own, so putting a node somewhere or taking it away changes the view at one place only.

## Main definitions

* `Kind` — what a node is: a file with its content, a link with its target, or a directory.
* `FileNode.kindAt` — the kind of the node at a place.

## Main results

* `FileNode.kindAt_concat_ne_none`: whatever has something below it is a directory
* `FileNode.kindAt_put`, `FileNode.kindAt_erase`: only the view of one place changes
-/

namespace MessageCatalog

/-- What a node is; a directory without its entries. -/
inductive Kind where
  | file (content : ByteArray)
  | link (target : String)
  | directory
  deriving DecidableEq

/-- Whether a kind is that of a link. -/
def Kind.isLink : Kind → Bool
  | .link _ => true
  | _ => false

/-- What is at every place. -/
abbrev View := Place → Option Kind

namespace FileNode

/-- The kind of a node. -/
def kind : FileNode → Kind
  | .file content => .file content
  | .link target => .link target
  | .directory _ => .directory

/-- The kind of the node at a place. -/
def kindAt (root : FileNode) : View := fun place =>
  (root.get? place).map kind

@[simp] theorem kind_file (content : ByteArray) : (file content).kind = .file content := rfl

@[simp] theorem kind_link (target : String) : (link target).kind = .link target := rfl

@[simp] theorem kind_directory (entries : List (String × FileNode)) :
    (directory entries).kind = .directory := rfl

theorem isDirectory_iff {node : FileNode} : node.isDirectory = true ↔ node.kind = .directory := by
  cases node <;> simp [isDirectory]

theorem kindAt_eq_directory_iff {root : FileNode} {place : Place} :
    root.kindAt place = some .directory ↔
      ∃ entries, root.get? place = some (.directory entries) := by
  rw [kindAt]
  rcases root.get? place with - | (- | - | -) <;> simp

theorem kindAt_eq_file_iff {root : FileNode} {place : Place} {content : ByteArray} :
    root.kindAt place = some (.file content) ↔ root.get? place = some (.file content) := by
  rw [kindAt]
  rcases root.get? place with - | (- | - | -) <;> simp

theorem kindAt_eq_none_iff {root : FileNode} {place : Place} :
    root.kindAt place = none ↔ root.get? place = none := by
  simp [kindAt]

/-! ## Places below one another -/

theorem get?_cons (node : FileNode) (name : String) (rest : Place) :
    node.get? (name :: rest) = (node.get? [name]).bind fun child => child.get? rest := by
  cases node with
  | directory entries =>
    rw [get?_directory_cons, get?_directory_cons]
    cases Rows.get? name entries <;> simp
  | file | link => rfl

theorem get?_append (node : FileNode) (place rest : Place) :
    node.get? (place ++ rest) = (node.get? place).bind fun child => child.get? rest := by
  induction place generalizing node with
  | nil => simp
  | cons name place ih =>
    rw [List.cons_append, get?_cons, get?_cons node name place]
    cases node.get? [name] with
    | none => rfl
    | some child => exact ih child

/-- The entries of a directory stand at the places directly below it. -/
theorem kindAt_concat {root : FileNode} {place : Place} {entries : List (String × FileNode)}
    (h : root.get? place = some (.directory entries)) (name : String) :
    root.kindAt (place ++ [name]) = (Rows.get? name entries).map kind := by
  rw [kindAt, get?_append, h, Option.bind_some, get?_directory_cons]
  cases Rows.get? name entries <;> simp

theorem kindAt_concat_eq_link_iff {root : FileNode} {place : Place}
    {entries : List (String × FileNode)} (h : root.get? place = some (.directory entries))
    {name target : String} :
    root.kindAt (place ++ [name]) = some (.link target) ↔
      Rows.get? name entries = some (.link target) := by
  rw [kindAt_concat h]
  rcases Rows.get? name entries with - | (- | - | -) <;> simp

/-- Whatever has something below it is a directory. -/
theorem kindAt_concat_ne_none {root : FileNode} {place : Place} {name : String}
    (h : root.kindAt (place ++ [name]) ≠ none) : root.kindAt place = some .directory := by
  rw [kindAt, get?_append] at h
  cases hnode : root.get? place with
  | none => simp [hnode] at h
  | some node =>
    cases node with
    | directory entries => exact kindAt_eq_directory_iff.mpr ⟨entries, hnode⟩
    | file | link => simp [hnode] at h

theorem kindAt_append_of_ne_directory {root : FileNode} {place : Place}
    (h : root.kindAt place ≠ some .directory) {rest : Place} (hrest : rest ≠ []) :
    root.kindAt (place ++ rest) = none := by
  obtain ⟨name, rest, rfl⟩ := List.exists_cons_of_ne_nil hrest
  rw [kindAt, get?_append]
  cases hnode : root.get? place with
  | none => rfl
  | some node =>
    cases node with
    | directory entries => exact absurd (kindAt_eq_directory_iff.mpr ⟨entries, hnode⟩) h
    | file | link => rfl

theorem kindAt_directory_cons (entries : List (String × FileNode)) (name : String) (rest : Place) :
    (directory entries).kindAt (name :: rest) =
      (Rows.get? name entries).bind fun child => child.kindAt rest := by
  rw [kindAt, get?_directory_cons, Option.map_bind]
  rfl

theorem kindAt_directory_set (entries : List (String × FileNode)) (name other : String)
    (child : FileNode) (rest : Place) :
    (directory (Rows.set name child entries)).kindAt (other :: rest) =
      if other = name then child.kindAt rest else (directory entries).kindAt (other :: rest) := by
  rw [kindAt_directory_cons]
  split
  · next h => rw [h, Rows.get?_set_self, Option.bind_some]
  · next h => rw [Rows.get?_set_of_ne h, kindAt_directory_cons]

theorem kindAt_directory_remove (entries : List (String × FileNode)) (name other : String)
    (rest : Place) :
    (directory (Rows.remove name entries)).kindAt (other :: rest) =
      if other = name then none else (directory entries).kindAt (other :: rest) := by
  rw [kindAt_directory_cons]
  split
  · next h => rw [h, Rows.get?_remove_self, Option.bind_none]
  · next h => rw [Rows.get?_remove_of_ne h, kindAt_directory_cons]

/-- A place below the root that has something below it leads through an entry of the root. -/
theorem exists_child_of_kindAt_cons {root : FileNode} {name : String} {rest : Place} {kind : Kind}
    (h : root.kindAt (name :: rest) = some kind) :
    ∃ entries child, root = directory entries ∧ Rows.get? name entries = some child ∧
      child.kindAt rest = some kind := by
  cases root with
  | directory entries =>
    rw [kindAt_directory_cons] at h
    obtain ⟨child, hchild, hkind⟩ := Option.bind_eq_some_iff.mp h
    exact ⟨entries, child, rfl, hchild, hkind⟩
  | file | link => simp [kindAt] at h

/-! ## Changing one place -/

/-- Whether a node has nothing below it. -/
def IsBare (node : FileNode) : Prop :=
  ∀ name, node.get? [name] = none

theorem isBare_file (content : ByteArray) : (file content).IsBare := fun _ => rfl

theorem isBare_directory_nil : (directory []).IsBare := fun _ => rfl

theorem IsBare.kindAt_cons {node : FileNode} (h : node.IsBare) (name : String) (rest : Place) :
    node.kindAt (name :: rest) = none := by
  rw [kindAt, get?_cons, h name]
  rfl

theorem isBare_of_kind_ne_directory {node : FileNode} (h : node.kind ≠ .directory) :
    node.IsBare := by
  cases node with
  | directory => exact absurd rfl h
  | file | link => exact fun _ => rfl

/-- A change at one place of a child changes one place of the directory. -/
theorem kindAt_directory_set_child {entries : List (String × FileNode)} {name : String}
    {child changed : FileNode} (hchild : Rows.get? name entries = some child) {below : Place}
    {kind : Option Kind}
    (h : ∀ place, changed.kindAt place = if place = below then kind else child.kindAt place)
    (place : Place) :
    (directory (Rows.set name changed entries)).kindAt place =
      if place = name :: below then kind else (directory entries).kindAt place := by
  cases place with
  | nil => rfl
  | cons other rest =>
    rw [kindAt_directory_set]
    by_cases hother : other = name
    · subst hother
      simp [kindAt_directory_cons, hchild, h]
    · simp [hother]

/-- **Putting a node into a directory** changes the view at its place only, if neither it nor what
was there has anything below it. -/
theorem kindAt_put {new root : FileNode} {directory : Place} {name : String} (hnew : new.IsBare)
    (hdirectory : root.kindAt directory = some .directory)
    (hold : root.kindAt (directory ++ [name]) ≠ some .directory) (place : Place) :
    (put new (directory ++ [name]) root).kindAt place =
      if place = directory ++ [name] then some new.kind else root.kindAt place := by
  -- the induction goes down the directory, whose last entry is the one that is set
  induction directory generalizing root place with
  | nil =>
    obtain ⟨entries, hroot⟩ := kindAt_eq_directory_iff.mp hdirectory
    obtain rfl := Option.some.inj ((get?_nil root).symm.trans hroot)
    cases place with
    | nil => rfl
    | cons other rest =>
      rw [List.nil_append, put, kindAt_directory_set]
      by_cases hother : other = name
      · subst hother
        cases rest with
        | nil => simp [kindAt]
        | cons next rest =>
          -- nothing is below the new node, and nothing was below the old one
          have hbelow : (FileNode.directory entries).kindAt ([other] ++ next :: rest) = none :=
            kindAt_append_of_ne_directory hold (by simp)
          simpa [hnew.kindAt_cons] using hbelow.symm
      · simp [hother]
  | cons first directory ih =>
    obtain ⟨entries, child, rfl, hchild, hbelow⟩ := exists_child_of_kindAt_cons hdirectory
    have hput : put new (first :: directory ++ [name]) (.directory entries) =
        .directory (Rows.set first (put new (directory ++ [name]) child) entries) := by
      cases directory <;> simp [put, hchild]
    rw [List.cons_append, kindAt_directory_cons, hchild, Option.bind_some] at hold
    rw [hput]
    exact kindAt_directory_set_child hchild (ih hbelow hold) place

/-- A node that is replaced needs no directory named for it. -/
theorem kindAt_put_of_ne_none {new root : FileNode} {place : Place} (hnew : new.IsBare)
    (hnone : root.kindAt place ≠ none) (hold : root.kindAt place ≠ some .directory)
    (other : Place) :
    (put new place root).kindAt other =
      if other = place then some new.kind else root.kindAt other := by
  rcases List.eq_nil_or_concat place with rfl | ⟨directory, name, rfl⟩
  · cases other with
    | nil => simp [put, kindAt]
    | cons name rest =>
      have hbelow : root.kindAt ([] ++ name :: rest) = none :=
        kindAt_append_of_ne_directory hold (by simp)
      simpa [put, hnew.kindAt_cons] using hbelow.symm
  · rw [List.concat_eq_append] at *
    exact kindAt_put hnew (kindAt_concat_ne_none hnone) hold other

/-- **Taking a node away** changes the view at its place only, if it has nothing below it. -/
theorem kindAt_erase {root : FileNode} {directory : Place} {name : String}
    (hdirectory : root.kindAt directory = some .directory)
    (hold : root.kindAt (directory ++ [name]) ≠ some .directory) (place : Place) :
    (erase (directory ++ [name]) root).kindAt place =
      if place = directory ++ [name] then none else root.kindAt place := by
  induction directory generalizing root place with
  | nil =>
    obtain ⟨entries, hroot⟩ := kindAt_eq_directory_iff.mp hdirectory
    obtain rfl := Option.some.inj ((get?_nil root).symm.trans hroot)
    cases place with
    | nil => rfl
    | cons other rest =>
      rw [List.nil_append, erase, kindAt_directory_remove]
      by_cases hother : other = name
      · subst hother
        cases rest with
        | nil => simp
        | cons next rest =>
          have hbelow : (FileNode.directory entries).kindAt ([other] ++ next :: rest) = none :=
            kindAt_append_of_ne_directory hold (by simp)
          simpa using hbelow.symm
      · simp [hother]
  | cons first directory ih =>
    obtain ⟨entries, child, rfl, hchild, hbelow⟩ := exists_child_of_kindAt_cons hdirectory
    have herase : erase (first :: directory ++ [name]) (.directory entries) =
        .directory (Rows.set first (erase (directory ++ [name]) child) entries) := by
      cases directory <;> simp [erase, hchild]
    rw [List.cons_append, kindAt_directory_cons, hchild, Option.bind_some] at hold
    rw [herase]
    exact kindAt_directory_set_child hchild (ih hbelow hold) place

end FileNode

end MessageCatalog
