import Mathlib.Data.List.Nodup
import MessageCatalog.Proofs.Document.RoundTrip
import MessageCatalog.Proofs.Entry.Check
import MessageCatalog.Proofs.Entry.Order

/-!
# Keys with names of their own

A key is named by the keys on the way to it, which are joined with dots or with underscores. Where
no key holds a dot or an underscore, the parts of a name can be told apart again, whether or not
some of them are empty. So a name leads back to the path of its key, and a path leads to one place
in the document only.

## Main definitions

* `Node.DistinctKeys` — no branch of the node repeats a key.
* `KeyPath.IsPlain` — no key of the path holds a dot or an underscore.

## Main results

* `Document.distinctKeys_of_parse`: no branch of a document that is read repeats a key
* `Node.eq_of_at?_eq`: a path leads to one address only
* `KeyPath.eq_of_dotted_eq`, `KeyPath.eq_of_symbol_eq`: the two names of a key lead back to its path
* `Document.nodup_names_of_isPlain`: where all paths are plain, every key has names of its own
-/

namespace MessageCatalog

/-! ## Distinct keys -/

/-- No branch of the node repeats a key. -/
inductive Node.DistinctKeys : Node → Prop where
  | leaf (value : Json) : DistinctKeys (.leaf value)
  | branch {children : List (String × Node)} (hkeys : (Rows.names children).Nodup)
      (hchildren : ∀ child ∈ children, DistinctKeys child.2) : DistinctKeys (.branch children)

theorem Node.distinctKeys_branch_iff {children : List (String × Node)} :
    (Node.branch children).DistinctKeys ↔
      (Rows.names children).Nodup ∧ ∀ child ∈ children, child.2.DistinctKeys := by
  constructor
  · intro h
    cases h with
    | branch hkeys hchildren => exact ⟨hkeys, hchildren⟩
  · rintro ⟨hkeys, hchildren⟩
    exact .branch hkeys hchildren

theorem Node.names_membersToJson (children : List (String × Node)) :
    Rows.names (Node.membersToJson children) = Rows.names children := by
  rw [Node.membersToJson_eq_map, Rows.names, List.map_map]
  rfl

mutual

/-- No branch repeats a key if the value of the node is one that is read. -/
theorem Node.distinctKeys_of_readable {depth : Nat} {node : Node}
    (h : Json.Readable depth node.toJson) : node.DistinctKeys := by
  cases node with
  | leaf value => exact .leaf value
  | branch children =>
    rw [Node.toJson] at h
    cases h with
    | object hnames hmembers =>
      rw [Node.names_membersToJson] at hnames
      exact .branch hnames (Node.distinctKeys_of_forall_readable hmembers)

theorem Node.distinctKeys_of_forall_readable {depth : Nat} {children : List (String × Node)}
    (h : ∀ member ∈ Node.membersToJson children, Json.Readable depth member.2) :
    ∀ child ∈ children, child.2.DistinctKeys := by
  match children with
  | [] => exact List.forall_mem_nil _
  | (key, node) :: rest =>
    rw [Node.membersToJson, List.forall_mem_cons] at h
    exact List.forall_mem_cons.mpr
      ⟨Node.distinctKeys_of_readable h.1, Node.distinctKeys_of_forall_readable h.2⟩

end

/-- No branch of a document that is read repeats a key. -/
theorem Document.distinctKeys_of_parse {name content : String} {maxDepth : Nat}
    {document : Document} (h : parse name content maxDepth = .ok document) :
    (Node.branch document.children).DistinctKeys := by
  unfold parse at h
  split at h
  · next value hvalue =>
    unfold ofJson at h
    split at h
    · next children hnode =>
      cases h
      have hreadable := Json.readable_of_parse hvalue
      rw [← Node.toJson_of_ofJson? hnode] at hreadable
      exact Node.distinctKeys_of_readable hreadable
    · cases h
    · cases h
  · cases h

/-! ## Paths and addresses -/

/-- Siblings with one key are one. -/
theorem Rows.eq_of_getElem?_name {α : Type} {rows : Rows α} (h : (names rows).Nodup)
    {index later : Nat} {one other : String × α} (hone : rows[index]? = some one)
    (hother : rows[later]? = some other) (hname : one.1 = other.1) : index = later := by
  have hindex : (names rows)[index]? = some one.1 := by
    rw [names, List.getElem?_map, hone, Option.map_some]
  have hlater : (names rows)[later]? = some one.1 := by
    rw [names, List.getElem?_map, hother, Option.map_some, hname]
  obtain ⟨hlt, -⟩ := List.getElem?_eq_some_iff.mp hindex
  exact (List.getElem?_inj hlt h).mp (hindex.trans hlater.symm)

/-- An address below the node itself leads through one of the children of a branch. -/
theorem Node.exists_child_of_at?_cons {node : Node} {index : Nat} {rest : Address}
    {row : KeyPath × Node} (h : node.at? (index :: rest) = some row) :
    ∃ children key child below, node = .branch children ∧ children[index]? = some (key, child) ∧
      child.at? rest = some below ∧ row = (key :: below.1, below.2) := by
  cases node with
  | leaf value => cases h
  | branch children =>
    cases hchild : children[index]? with
    | none => simp [Node.at?, hchild] at h
    | some first =>
      obtain ⟨key, child⟩ := first
      rw [Node.at?_branch_cons hchild] at h
      obtain ⟨below, hbelow, rfl⟩ := Option.map_eq_some_iff.mp h
      exact ⟨children, key, child, below, rfl, hchild, hbelow, rfl⟩

/-- Only the node itself has the empty path. -/
theorem Node.path_ne_nil_of_at? {node : Node} {address : Address} (hne : address ≠ [])
    {row : KeyPath × Node} (h : node.at? address = some row) : row.1 ≠ [] := by
  obtain ⟨index, rest, rfl⟩ := List.exists_cons_of_ne_nil hne
  obtain ⟨-, key, -, below, -, -, -, rfl⟩ := Node.exists_child_of_at?_cons h
  exact List.cons_ne_nil key below.1

/-- **A path leads to one address only**, where no branch repeats a key. -/
theorem Node.eq_of_at?_eq {node : Node} (h : node.DistinctKeys) {one other : Address}
    {row row' : KeyPath × Node} (hone : node.at? one = some row)
    (hother : node.at? other = some row') (hpath : row.1 = row'.1) : one = other := by
  induction one generalizing node other row row' with
  | nil =>
    cases other with
    | nil => rfl
    | cons later rest =>
      -- the path of the node itself is empty
      obtain rfl := Option.some.inj hone
      obtain ⟨-, key, -, below, -, -, -, rfl⟩ := Node.exists_child_of_at?_cons hother
      cases hpath
  | cons index rest ih =>
    obtain ⟨children, key, child, below, rfl, hchild, hbelow, rfl⟩ :=
      Node.exists_child_of_at?_cons hone
    cases other with
    | nil =>
      obtain rfl := Option.some.inj hother
      cases hpath
    | cons later rest' =>
      obtain ⟨others, key', child', below', hchildren, hchild', hbelow', rfl⟩ :=
        Node.exists_child_of_at?_cons hother
      obtain rfl := Node.branch.inj hchildren
      obtain ⟨hkey, hrest⟩ := List.cons.inj hpath
      obtain ⟨hkeys, hdistinct⟩ := Node.distinctKeys_branch_iff.mp h
      obtain rfl : index = later := Rows.eq_of_getElem?_name hkeys hchild hchild' hkey
      obtain ⟨-, rfl⟩ := Prod.mk.inj (Option.some.inj (hchild.symm.trans hchild'))
      rw [ih (hdistinct _ (List.mem_of_getElem? hchild)) hbelow hbelow' hrest]

/-- The keys of a document are those at its addresses, but for the root. -/
theorem Document.keyPaths_eq_filterMap (document : Document) :
    document.keyPaths = (postorderFrom 0 document.children).filterMap
      fun address => (Node.branch document.children).at? address := by
  have h := keyPathsBelow_eq_filterMap [] [] document.children
  have hbelow : KeyPath.below [] = id := rfl
  rw [List.length_nil, List.nil_append, hbelow] at h
  rw [Document.keyPaths]
  simpa using h

theorem Document.mem_keyPaths_iff {document : Document} {row : KeyPath × Node} :
    row ∈ document.keyPaths ↔
      ∃ address, address ≠ [] ∧ (Node.branch document.children).at? address = some row := by
  rw [Document.keyPaths_eq_filterMap, List.mem_filterMap]
  constructor
  · rintro ⟨address, haddress, hrow⟩
    obtain ⟨later, rest, rfl, -⟩ := exists_cons_of_mem_postorderFrom haddress
    exact ⟨later :: rest, List.cons_ne_nil later rest, hrow⟩
  · rintro ⟨address, hne, hrow⟩
    obtain ⟨later, rest, rfl⟩ := List.exists_cons_of_ne_nil hne
    have hmem := mem_postorderFrom_iff [] document.children (later :: rest)
    refine ⟨later :: rest, hmem.mpr ⟨later, rest, rfl, Nat.zero_le later, ?_⟩, hrow⟩
    exact Option.isSome_of_eq_some hrow

theorem Document.path_ne_nil_of_mem_keyPaths {document : Document} {row : KeyPath × Node}
    (h : row ∈ document.keyPaths) : row.1 ≠ [] := by
  obtain ⟨address, hne, hrow⟩ := Document.mem_keyPaths_iff.mp h
  exact Node.path_ne_nil_of_at? hne hrow

/-- The paths of a document are distinct. -/
theorem Document.nodup_paths {document : Document}
    (h : (Node.branch document.children).DistinctKeys) :
    (document.keyPaths.map Prod.fst).Nodup := by
  rw [Document.keyPaths_eq_filterMap, List.map_filterMap]
  refine List.Nodup.filterMap ?_ (pairwise_postorderFrom 0 document.children).nodup
  intro one other path hone hother
  obtain ⟨row, hrow, rfl⟩ := Option.map_eq_some_iff.mp hone
  obtain ⟨row', hrow', hpath⟩ := Option.map_eq_some_iff.mp hother
  exact Node.eq_of_at?_eq h hrow hrow' hpath.symm

/-! ## Plain paths -/

namespace KeyPath

/-- No key of the path holds a dot or an underscore. Keys may be empty. -/
def IsPlain (path : KeyPath) : Prop :=
  ∀ key ∈ path, '.' ∉ key.toList ∧ '_' ∉ key.toList

instance : DecidablePred IsPlain :=
  fun path => inferInstanceAs (Decidable (∀ key ∈ path, '.' ∉ key.toList ∧ '_' ∉ key.toList))

theorem splitOn_dotted {path : KeyPath} (hne : path ≠ [])
    (hdots : ∀ key ∈ path, '.' ∉ key.toList) :
    path.dotted.toList.splitOn '.' = path.map String.toList := by
  rw [dotted, String.toList_intercalate]
  apply List.splitOn_intercalate
  · exact List.forall_mem_map.mpr hdots
  · simpa using hne

/-- **A dotted key leads back to its path**, where no key of it holds a dot. -/
theorem eq_of_dotted_eq {path other : KeyPath} (hpath : path ≠ []) (hother : other ≠ [])
    (hdots : ∀ key ∈ path, '.' ∉ key.toList) (hdots' : ∀ key ∈ other, '.' ∉ key.toList)
    (h : path.dotted = other.dotted) : path = other := by
  have hparts : path.map String.toList = other.map String.toList := by
    rw [← splitOn_dotted hpath hdots, ← splitOn_dotted hother hdots', h]
  exact List.map_injective_iff.mpr (fun _ _ => String.toList_injective) hparts

theorem not_mem_dotted {c : Char} (hc : c ≠ '.') {path : KeyPath}
    (h : ∀ key ∈ path, c ∉ key.toList) : c ∉ path.dotted.toList := by
  induction path with
  | nil => simp [dotted]
  | cons key rest ih =>
    rw [List.forall_mem_cons] at h
    rcases eq_or_ne rest [] with rfl | hne
    · simpa [dotted] using h.1
    · have hfirst : dotted (key :: rest) = key ++ "." ++ dotted rest :=
        String.intercalate_cons_of_ne_nil hne
      simp only [hfirst, String.toList_append, List.mem_append, not_or]
      exact ⟨⟨h.1, by simpa using hc⟩, ih h.2⟩

theorem underscored_symbol (path : KeyPath) :
    underscored path.symbol = underscored path.dotted := by
  rw [dotted_eq_dottedKey, symbol, underscored_symbolName]

end KeyPath

/-- Without underscores in it, a text is fixed by what it is with its dots written as
underscores. -/
theorem eq_of_underscored_eq {one other : String} (hone : '_' ∉ one.toList)
    (hother : '_' ∉ other.toList) (h : underscored one = underscored other) : one = other := by
  have hback : ∀ text : String, '_' ∉ text.toList →
      (underscored text).toList.map (fun c => if c = '_' then '.' else c) = text.toList := by
    intro text htext
    rw [toList_underscored, List.map_map]
    refine (List.map_congr_left fun c hc => ?_).trans (List.map_id _)
    have hne : c ≠ '_' := fun hline => htext (hline ▸ hc)
    by_cases hdot : c = '.' <;> simp [underscoreChar, hdot, hne]
  apply String.toList_injective
  rw [← hback one hone, ← hback other hother, h]

/-- **A symbol leads back to its path**, where the path is plain. Written with underscores, it is the
dotted key, which has no other underscores. -/
theorem KeyPath.eq_of_symbol_eq {path other : KeyPath} (hpath : path ≠ []) (hother : other ≠ [])
    (hplain : path.IsPlain) (hplain' : other.IsPlain) (h : path.symbol = other.symbol) :
    path = other := by
  have hdotted : path.dotted = other.dotted := by
    apply eq_of_underscored_eq
    · exact not_mem_dotted (by decide) fun key hkey => (hplain key hkey).2
    · exact not_mem_dotted (by decide) fun key hkey => (hplain' key hkey).2
    · rw [← underscored_symbol, ← underscored_symbol, h]
  exact eq_of_dotted_eq hpath hother (fun key hkey => (hplain key hkey).1)
    (fun key hkey => (hplain' key hkey).1) hdotted

/-! ## Names of their own -/

namespace Document

/-- Names that lead back to paths are distinct among the entries of a document. -/
theorem nodup_map_flatten {document : Document}
    (hkeys : (Node.branch document.children).DistinctKeys) (name : Entry → String)
    (hname : ∀ row ∈ document.keyPaths, ∀ other ∈ document.keyPaths,
      name row.1.entry = name other.1.entry → row.1 = other.1) (skipBranches : Bool) :
    ((document.flatten skipBranches).map name).Nodup := by
  have hpaths : ((document.keyPaths.map Prod.fst).map fun path => name path.entry).Nodup := by
    refine (nodup_paths hkeys).map_on ?_
    rw [List.forall_mem_map]
    intro row hrow
    rw [List.forall_mem_map]
    exact hname row hrow
  have hresolved : (document.resolved.map fun row => name row.1).Nodup := by
    rw [resolved_eq_map_keyPaths, List.map_map]
    rwa [List.map_map] at hpaths
  rw [flatten, List.map_map]
  exact hresolved.sublist (List.filter_sublist.map _)

variable {document : Document} (hkeys : (Node.branch document.children).DistinctKeys)
  (hplain : ∀ row ∈ document.keyPaths, row.1.IsPlain)

include hkeys hplain in
/-- **Every key has names of its own**, where no branch repeats a key and no key holds a dot or an
underscore: the symbols of the entries are distinct, with or without those of branches, and so are
their dotted keys, and there are no collisions. No symbol stands at two addresses. -/
theorem nodup_names_of_isPlain :
    (∀ skipBranches, ((document.flatten skipBranches).map Entry.symbol).Nodup ∧
      ((document.flatten skipBranches).map Entry.key).Nodup ∧
      findCollisions (document.flatten skipBranches) = []) ∧
    ∀ one other : Address, one ≠ [] → other ≠ [] →
      ∀ row ∈ (Node.branch document.children).at? one,
        ∀ row' ∈ (Node.branch document.children).at? other,
          row.1.symbol = row'.1.symbol → one = other := by
  have hsymbol : ∀ row ∈ document.keyPaths, ∀ other ∈ document.keyPaths,
      row.1.symbol = other.1.symbol → row.1 = other.1 := fun row hrow other hother =>
    KeyPath.eq_of_symbol_eq (path_ne_nil_of_mem_keyPaths hrow)
      (path_ne_nil_of_mem_keyPaths hother) (hplain row hrow) (hplain other hother)
  have hdotted : ∀ row ∈ document.keyPaths, ∀ other ∈ document.keyPaths,
      row.1.dotted = other.1.dotted → row.1 = other.1 := fun row hrow other hother =>
    KeyPath.eq_of_dotted_eq (path_ne_nil_of_mem_keyPaths hrow)
      (path_ne_nil_of_mem_keyPaths hother) (fun key hkey => (hplain row hrow key hkey).1)
      (fun key hkey => (hplain other hother key hkey).1)
  refine ⟨fun skipBranches => ?_, fun one other hone hother row hrow row' hrow' h => ?_⟩
  · have hsymbols := nodup_map_flatten hkeys Entry.symbol hsymbol skipBranches
    exact ⟨hsymbols, nodup_map_flatten hkeys Entry.key hdotted skipBranches,
      findCollisions_eq_nil_iff.mpr hsymbols⟩
  · have hpath := hsymbol row (mem_keyPaths_iff.mpr ⟨one, hone, hrow⟩) row'
      (mem_keyPaths_iff.mpr ⟨other, hother, hrow'⟩) h
    exact Node.eq_of_at?_eq hkeys hrow hrow' hpath

/-- A document with empty keys at the front, at the end and inside of names. -/
def borderDocument : Document :=
  ⟨"en", [("", .branch [("", .leaf (.string "x")), ("a", .leaf .null)]),
    ("a", .branch [("", .branch [("", .leaf .null)]), ("a", .leaf .null)])]⟩

/-- Empty keys have names of their own as well. -/
theorem nodup_names_borderDocument :
    (borderDocument.flatten false).map Entry.symbol = ["_", "_a", "", "a__", "a_", "a_a", "a"] ∧
      ((borderDocument.flatten false).map Entry.symbol).Nodup ∧
      ((borderDocument.flatten true).map Entry.key).Nodup ∧
      findCollisions (borderDocument.flatten false) = [] := by
  have hkeys : (Node.branch borderDocument.children).DistinctKeys := by
    simp [borderDocument, Node.distinctKeys_branch_iff, Node.DistinctKeys.leaf]
  have hplain : ∀ row ∈ borderDocument.keyPaths, row.1.IsPlain := by decide
  obtain ⟨hnames, -⟩ := nodup_names_of_isPlain hkeys hplain
  exact ⟨by decide, (hnames false).1, (hnames true).2.1, (hnames false).2.2⟩

end Document

end MessageCatalog
