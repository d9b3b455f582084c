import Mathlib.Data.List.Sort
import MessageCatalog.Proofs.Entry.KeyPath

/-!
# The order of the traversal

A key of a tree has an address, which gives the position of every key on the way to it among its
siblings. A key stands before another one if it is below it, or if it is, or is below, an earlier
sibling. This order speaks of addresses only, and there is one way to list all keys of a tree in
it: the traversal.

## Main definitions

* `Address.Before` — the order of addresses: siblings in their order, a key behind those below it.
* `Node.at?` — the key path and the node at an address.
* `Node.postorder` — the addresses of a node and of all nodes below it.
* `KeyPath.entryBelow` — the two names of the key at a path below a parent.

## Main results

* `Node.pairwise_postorder`, `Node.mem_postorder_iff`: every address of a node is listed, in order
* `resolve_eq_filterMap_order`: the traversal lists the keys of a tree in the order of addresses, and
  names them by the parts of their paths
-/

namespace MessageCatalog

/-- The way to a key: the position of every key on it among its siblings. -/
abbrev Address := List Nat

namespace Address

/-- One address stands before another: it leads to a key below the other one, or through an earlier
sibling. -/
inductive Before : Address → Address → Prop where
  | descendant {index : Nat} {rest : Address} : Before (index :: rest) []
  | sibling {index later : Nat} {rest other : Address} :
      index < later → Before (index :: rest) (later :: other)
  | inside {index : Nat} {rest other : Address} :
      Before rest other → Before (index :: rest) (index :: other)

theorem Before.irrefl (address : Address) : ¬ Before address address := by
  intro h
  induction address with
  | nil => cases h
  | cons index rest ih =>
    cases h with
    | sibling hlt => exact absurd hlt (Nat.lt_irrefl index)
    | inside hrest => exact ih hrest

theorem Before.asymm {one other : Address} (h : Before one other) : ¬ Before other one := by
  intro h'
  induction h with
  | descendant => cases h'
  | sibling hlt =>
    cases h' with
    | sibling hlt' => omega
    | inside => exact absurd hlt (Nat.lt_irrefl _)
  | inside _ ih =>
    cases h' with
    | sibling hlt => exact absurd hlt (Nat.lt_irrefl _)
    | inside hrest => exact ih hrest

instance : Std.Irrefl Before := ⟨Before.irrefl⟩

instance : Std.Antisymm Before := ⟨fun _ _ h h' => absurd h' h.asymm⟩

end Address

/-! ## The addresses of a tree -/

/-- The key path and the node at an address, both seen from a node. -/
def Node.at? : Address → Node → Option (KeyPath × Node)
  | [], node => some ([], node)
  | _ :: _, .leaf _ => none
  | index :: rest, .branch children =>
    match children[index]? with
    | none => none
    | some (key, child) => (child.at? rest).map fun (path, node) => (key :: path, node)

mutual

/-- The addresses of a node and of all nodes below it, its own address last. -/
def Node.postorder : Node → List Address
  | .leaf _ => [[]]
  | .branch children => postorderFrom 0 children ++ [[]]

/-- The addresses of some keys and of all keys below them, given the position of the first. -/
def postorderFrom (index : Nat) : List (String × Node) → List Address
  | [] => []
  | (_, node) :: rest => node.postorder.map (index :: ·) ++ postorderFrom (index + 1) rest

end

theorem Node.at?_branch_cons {children : List (String × Node)} {index : Nat} {rest : Address}
    {key : String} {child : Node} (h : children[index]? = some (key, child)) :
    (Node.branch children).at? (index :: rest) =
      (child.at? rest).map fun (path, node) => (key :: path, node) := by
  simp only [Node.at?, h]

theorem exists_cons_of_mem_postorderFrom {index : Nat} {children : List (String × Node)}
    {address : Address} (h : address ∈ postorderFrom index children) :
    ∃ later rest, address = later :: rest ∧ index ≤ later := by
  induction children generalizing index with
  | nil => simp [postorderFrom] at h
  | cons row children ih =>
    rw [postorderFrom, List.mem_append] at h
    rcases h with h | h
    · obtain ⟨rest, -, rfl⟩ := List.mem_map.mp h
      exact ⟨index, rest, rfl, Nat.le_refl index⟩
    · obtain ⟨later, rest, rfl, hle⟩ := ih h
      exact ⟨later, rest, rfl, Nat.le_of_succ_le hle⟩

mutual

/-- The addresses of a node are listed in their order. -/
theorem Node.pairwise_postorder (node : Node) : node.postorder.Pairwise Address.Before := by
  cases node with
  | leaf value =>
    rw [Node.postorder]
    exact List.pairwise_singleton _ _
  | branch children =>
    rw [Node.postorder, List.pairwise_append]
    refine ⟨pairwise_postorderFrom 0 children, List.pairwise_singleton _ _, ?_⟩
    -- the node itself stands behind whatever is below it
    intro address haddress last hlast
    obtain ⟨later, rest, rfl, -⟩ := exists_cons_of_mem_postorderFrom haddress
    obtain rfl := List.mem_singleton.mp hlast
    exact .descendant

theorem pairwise_postorderFrom (index : Nat) (children : List (String × Node)) :
    (postorderFrom index children).Pairwise Address.Before := by
  match children with
  | [] =>
    rw [postorderFrom]
    exact List.Pairwise.nil
  | (key, node) :: rest =>
    rw [postorderFrom, List.pairwise_append]
    refine ⟨?_, pairwise_postorderFrom (index + 1) rest, ?_⟩
    · rw [List.pairwise_map]
      exact (Node.pairwise_postorder node).imp .inside
    · intro address haddress other hother
      obtain ⟨below, -, rfl⟩ := List.mem_map.mp haddress
      obtain ⟨later, behind, rfl, hle⟩ := exists_cons_of_mem_postorderFrom hother
      exact .sibling hle

end

mutual

/-- Every address of a node is listed, and no others. -/
theorem Node.mem_postorder_iff (node : Node) (address : Address) :
    address ∈ node.postorder ↔ (node.at? address).isSome := by
  cases node with
  | leaf value =>
    rw [Node.postorder, List.mem_singleton]
    cases address <;> simp [Node.at?]
  | branch children =>
    rw [Node.postorder, List.mem_append, List.mem_singleton]
    cases address with
    | nil => simp [Node.at?]
    | cons index rest =>
      have h := mem_postorderFrom_iff [] children (index :: rest)
      rw [List.length_nil, List.nil_append] at h
      simp [h]

theorem mem_postorderFrom_iff (earlier children : List (String × Node)) (address : Address) :
    address ∈ postorderFrom earlier.length children ↔
      ∃ index rest, address = index :: rest ∧ earlier.length ≤ index ∧
        ((Node.branch (earlier ++ children)).at? (index :: rest)).isSome := by
  match children with
  | [] =>
    rw [postorderFrom]
    constructor
    · intro h
      cases h
    · rintro ⟨index, rest, -, hle, hsome⟩
      have hnone : earlier[index]? = none := List.getElem?_eq_none hle
      simp [Node.at?, hnone] at hsome
  | (key, node) :: children =>
    have hfirst : (earlier ++ (key, node) :: children)[earlier.length]? = some (key, node) := by
      simp
    have hrest := mem_postorderFrom_iff (earlier ++ [(key, node)]) children address
    rw [List.length_append, List.length_singleton, List.append_assoc, List.singleton_append]
      at hrest
    rw [postorderFrom, List.mem_append, List.mem_map, hrest]
    constructor
    · rintro (⟨rest, hmem, rfl⟩ | ⟨index, rest, rfl, hle, hsome⟩)
      · refine ⟨earlier.length, rest, rfl, Nat.le_refl _, ?_⟩
        rw [Node.at?_branch_cons hfirst, Option.isSome_map]
        exact (Node.mem_postorder_iff node rest).mp hmem
      · exact ⟨index, rest, rfl, Nat.le_of_succ_le hle, hsome⟩
    · rintro ⟨index, rest, rfl, hle, hsome⟩
      -- the address leads through the first key or through one behind it
      rcases Nat.eq_or_lt_of_le hle with rfl | hlt
      · rw [Node.at?_branch_cons hfirst, Option.isSome_map] at hsome
        exact Or.inl ⟨rest, (Node.mem_postorder_iff node rest).mpr hsome, rfl⟩
      · exact Or.inr ⟨index, rest, rfl, hlt, hsome⟩

end

/-! ## The keys at the addresses -/

/-- A row seen from further above, given the path to where it was seen from. -/
def KeyPath.below (path : KeyPath) (row : KeyPath × Node) : KeyPath × Node :=
  (path ++ row.1, row.2)

mutual

/-- The key paths of a node are those at its addresses. -/
theorem Node.keyPaths_eq_filterMap (path : KeyPath) (node : Node) :
    node.keyPaths path =
      node.postorder.filterMap fun address => (node.at? address).map path.below := by
  cases node with
  | leaf value => simp [Node.keyPaths, Node.postorder, Node.at?, KeyPath.below]
  | branch children =>
    have h := keyPathsBelow_eq_filterMap path [] children
    rw [List.length_nil, List.nil_append] at h
    rw [Node.keyPaths, Node.postorder, List.filterMap_append, h]
    simp [Node.at?, KeyPath.below]

theorem keyPathsBelow_eq_filterMap (path : KeyPath) (earlier children : List (String × Node)) :
    keyPathsBelow path children =
      (postorderFrom earlier.length children).filterMap fun address =>
        ((Node.branch (earlier ++ children)).at? address).map path.below := by
  match children with
  | [] => simp [keyPathsBelow, postorderFrom]
  | (key, node) :: children =>
    have hfirst : (earlier ++ (key, node) :: children)[earlier.length]? = some (key, node) := by
      simp
    have hrest := keyPathsBelow_eq_filterMap path (earlier ++ [(key, node)]) children
    rw [List.length_append, List.length_singleton, List.append_assoc, List.singleton_append]
      at hrest
    rw [keyPathsBelow, postorderFrom, List.filterMap_append, ← hrest, List.filterMap_map,
      Node.keyPaths_eq_filterMap (path ++ [key]) node]
    congr 2
    funext rest
    simp only [Function.comp_apply, Node.at?_branch_cons hfirst, Option.map_map]
    congr 1
    funext row
    simp [KeyPath.below]

end

mutual

theorem Node.length_keyPaths (path : KeyPath) (node : Node) :
    (node.keyPaths path).length = node.keyCount + 1 := by
  cases node with
  | leaf value => simp [Node.keyPaths, Node.keyCount]
  | branch children =>
    rw [Node.keyPaths, List.length_append, length_keyPathsBelow, Node.keyCount,
      List.length_singleton]

/-- There are as many key paths as keys. -/
theorem length_keyPathsBelow (path : KeyPath) (children : List (String × Node)) :
    (keyPathsBelow path children).length = Node.keyCountOf children := by
  match children with
  | [] => rw [keyPathsBelow, Node.keyCountOf, List.length_nil]
  | (key, node) :: rest =>
    rw [keyPathsBelow, List.length_append, Node.length_keyPaths, length_keyPathsBelow path rest,
      Node.keyCountOf]
    omega

end

/-! ## The names of a key by the parts of its path -/

/-- The names of the key at a path below a parent. The parts of its dotted key are the parent, if
there is one, and the keys of the path; in its symbol, the parts before the last one are joined
with dots, which are then written as underscores. -/
def KeyPath.entryBelow (parent : Option String) (path : KeyPath) : Entry :=
  let parts := parent.toList ++ path
  let last := parts.getLast?.getD ""
  { key := ".".intercalate parts
    symbol :=
      if parts.dropLast = [] then last
      else underscored (".".intercalate parts.dropLast) ++ "_" ++ last }

theorem KeyPath.entryBelow_eq_entry (parent : Option String) (path : KeyPath) :
    entryBelow parent path = entry (parent.toList ++ path) := by
  simp only [entryBelow, entry, symbol, branchKey?, dotted]
  split <;> rfl

/-- The key of a path below a parent with its node. -/
def KeyPath.rowBelow (parent : Option String) (row : KeyPath × Node) : Entry × Node :=
  (entryBelow parent row.1, row.2)

/-- Below a parent, keys are traversed as below a path of which the parent is the only part. -/
theorem resolve_eq_map_rowBelow (parent : Option String) (children : List (String × Node)) :
    resolve parent children =
      (keyPathsBelow [] children).map (KeyPath.rowBelow parent) := by
  have hparent : KeyPath.branchKey? parent.toList = parent := by
    cases parent <;> rfl
  have h := resolve_eq_map_keyPathsBelow parent.toList children
  rw [hparent] at h
  rw [h, keyPathsBelow_eq_filterMap _ [], keyPathsBelow_eq_filterMap [] [], List.map_filterMap,
    List.map_filterMap]
  congr 1
  funext address
  rw [Option.map_map, Option.map_map]
  congr 1
  funext row
  simp [KeyPath.row, KeyPath.rowBelow, KeyPath.below, KeyPath.entryBelow_eq_entry]

/-- **The traversal of a tree.** There is one list of addresses that holds those of all keys, every
key behind the keys below it and siblings in their order. The traversal gives the key at each of
them, with its node and named by the parts of its path; there are as many as the tree has keys. The
entries of a document are those at the same addresses, or at those of leaves. -/
theorem resolve_eq_filterMap_order (children : List (String × Node)) :
    ∃! order : List Address,
      (order.Pairwise Address.Before ∧ ∀ address, address ∈ order ↔
        address ≠ [] ∧ ((Node.branch children).at? address).isSome) ∧
      (∀ parent, resolve parent children = order.filterMap fun address =>
        ((Node.branch children).at? address).map (KeyPath.rowBelow parent)) ∧
      order.length = Node.keyCountOf children ∧
      (∀ parent, (resolve parent children).length = Node.keyCountOf children) ∧
      ∀ name skipBranches, (Document.mk name children).flatten skipBranches =
        order.filterMap fun address => ((Node.branch children).at? address).bind fun row =>
          if skipBranches = true ∧ row.2.isBranch = true then none
          else some (row.1.entryBelow none) := by
  have hpaths : keyPathsBelow [] children = (postorderFrom 0 children).filterMap
      fun address => ((Node.branch children).at? address).map (KeyPath.below []) :=
    keyPathsBelow_eq_filterMap [] [] children
  have hmem : ∀ address, address ∈ postorderFrom 0 children ↔
      address ≠ [] ∧ ((Node.branch children).at? address).isSome := by
    intro address
    apply (mem_postorderFrom_iff [] children address).trans
    constructor
    · rintro ⟨index, rest, rfl, -, hsome⟩
      exact ⟨List.cons_ne_nil index rest, hsome⟩
    · rintro ⟨hne, hsome⟩
      obtain ⟨index, rest, rfl⟩ := List.exists_cons_of_ne_nil hne
      exact ⟨index, rest, rfl, Nat.zero_le index, hsome⟩
  have hresolve : ∀ parent, resolve parent children = (postorderFrom 0 children).filterMap
      fun address => ((Node.branch children).at? address).map (KeyPath.rowBelow parent) := by
    intro parent
    rw [resolve_eq_map_rowBelow, hpaths, List.map_filterMap]
    congr 1
    funext address
    rw [Option.map_map]
    rfl
  have hlength : ∀ parent, (resolve parent children).length = Node.keyCountOf children := by
    intro parent
    rw [resolve_eq_map_rowBelow, List.length_map, length_keyPathsBelow]
  refine ⟨postorderFrom 0 children, ⟨⟨pairwise_postorderFrom 0 children, hmem⟩, hresolve, ?_,
    hlength, ?_⟩, ?_⟩
  · -- there is a key at each address of the list
    have hsome : ∀ address ∈ postorderFrom 0 children,
        (((Node.branch children).at? address).map (KeyPath.rowBelow none)).isSome := by
      intro address haddress
      rw [Option.isSome_map]
      exact ((hmem address).mp haddress).2
    rw [← hlength none, hresolve none, List.filterMap_length_eq_length.mpr hsome]
  · intro name skipBranches
    rw [Document.flatten, Document.resolved, hresolve none, List.filter_filterMap,
      List.map_filterMap]
    congr 1
    funext address
    cases (Node.branch children).at? address with
    | none => rfl
    | some row =>
      show ((some (KeyPath.rowBelow none row)).filter _).map Prod.fst = if _ then none else some _
      rw [Option.filter_some]
      cases hbranch : row.2.isBranch <;> cases skipBranches <;> simp [KeyPath.rowBelow, hbranch]
  · rintro other ⟨⟨hpairwise, hother⟩, -⟩
    exact hpairwise.eq_of_mem_iff (pairwise_postorderFrom 0 children) fun address =>
      (hother address).trans (hmem address).symm

end MessageCatalog
