import Mathlib.Data.List.Induction
import MessageCatalog.Entry

/-!
# Key paths

The place of a key in a document is the list of keys on the way to it from the root, the key itself
last. The traversal passes joined texts down instead of paths; here it is read as a list of paths.

## Main definitions

* `KeyPath.dotted`, `KeyPath.symbol` — the two names of the key at a path.
* `Document.keyPaths` — the path of every key with its node, the keys below a branch before it.

## Main results

* `Document.resolved_eq_map_keyPaths`: the entries of a document are the names of its paths
* `underscored_symbolName`: the two names of a key differ in dots and underscores only
* `KeyPath.underscored_dotted`: a symbol without dots is its dotted key written with underscores
* `KeyPath.symbol_eq_dotted`: a dotted key without dots is its own symbol
-/

namespace MessageCatalog

/-- The keys on the way from the root of a document to one of its keys, that key included. -/
abbrev KeyPath := List String

namespace KeyPath

/-- The dotted key of a path: its keys with a dot between each two. -/
def dotted (path : KeyPath) : String :=
  ".".intercalate path

/-- The dotted key of a branch; the root has none. -/
def branchKey? (path : KeyPath) : Option String :=
  if path = [] then none else some path.dotted

/-- The symbol of a path: the way to the key with underscores, and the key itself as it is. -/
def symbol (path : KeyPath) : String :=
  symbolName (branchKey? path.dropLast) (path.getLast?.getD "")

/-- The entry of the key at a path. -/
def entry (path : KeyPath) : Entry :=
  ⟨path.symbol, path.dotted⟩

theorem dotted_append_singleton {path : KeyPath} (h : path ≠ []) (key : String) :
    dotted (path ++ [key]) = dotted path ++ "." ++ key := by
  rw [dotted, String.intercalate_append_of_ne_nil h (by simp), String.intercalate_singleton]
  rfl

theorem dottedKey_branchKey? (path : KeyPath) (key : String) :
    dottedKey (branchKey? path) key = dotted (path ++ [key]) := by
  rcases eq_or_ne path [] with rfl | h
  · rfl
  · simp [branchKey?, h, dottedKey, dotted_append_singleton h]

theorem dotted_eq_dottedKey (path : KeyPath) :
    path.dotted = dottedKey (branchKey? path.dropLast) (path.getLast?.getD "") := by
  rcases List.eq_nil_or_concat path with rfl | ⟨above, key, rfl⟩
  · rfl
  · simp [dottedKey_branchKey?]

theorem entry_append_singleton (path : KeyPath) (key : String) :
    entry (path ++ [key]) = Entry.ofKey (branchKey? path) key := by
  simp [entry, symbol, Entry.ofKey, dottedKey_branchKey?]

theorem branchKey?_append_singleton (path : KeyPath) (key : String) :
    branchKey? (path ++ [key]) = some (dottedKey (branchKey? path) key) := by
  rw [dottedKey_branchKey?]
  simp [branchKey?]

end KeyPath

/-! ## The paths of a document -/

mutual

/-- The paths of a node and of all nodes below it, its own path last. -/
def Node.keyPaths (path : KeyPath) : Node → List (KeyPath × Node)
  | .leaf value => [(path, .leaf value)]
  | .branch children => keyPathsBelow path children ++ [(path, .branch children)]

/-- The paths of some keys below a path and of all keys below them. -/
def keyPathsBelow (path : KeyPath) : List (String × Node) → List (KeyPath × Node)
  | [] => []
  | (key, node) :: rest => node.keyPaths (path ++ [key]) ++ keyPathsBelow path rest

end

/-- The path of every key of a document with its node, each behind the paths below it. -/
def Document.keyPaths (document : Document) : List (KeyPath × Node) :=
  keyPathsBelow [] document.children

/-- The row of a path: the entry of its key with the node. -/
def KeyPath.row (row : KeyPath × Node) : Entry × Node :=
  (row.1.entry, row.2)

mutual

theorem resolveNode_eq_map_keyPaths (path : KeyPath) (key : String) (node : Node) :
    resolveNode path.branchKey? key node = (node.keyPaths (path ++ [key])).map KeyPath.row := by
  cases node with
  | leaf value => simp [Node.keyPaths, KeyPath.row, KeyPath.entry_append_singleton]
  | branch children =>
    rw [resolveNode_branch, Node.keyPaths, ← KeyPath.branchKey?_append_singleton,
      resolve_eq_map_keyPathsBelow]
    simp [KeyPath.row, KeyPath.entry_append_singleton]

theorem resolve_eq_map_keyPathsBelow (path : KeyPath) (children : List (String × Node)) :
    resolve path.branchKey? children = (keyPathsBelow path children).map KeyPath.row := by
  match children with
  | [] => simp [keyPathsBelow]
  | (key, node) :: rest =>
    rw [resolve_cons, keyPathsBelow, List.map_append, resolveNode_eq_map_keyPaths,
      resolve_eq_map_keyPathsBelow path rest]

end

/-- **The entries of a document are the names of its key paths**, in the order of the traversal. -/
theorem Document.resolved_eq_map_keyPaths (document : Document) :
    document.resolved = document.keyPaths.map KeyPath.row :=
  resolve_eq_map_keyPathsBelow [] document.children

/-! ## Dots and underscores -/

theorem toList_underscored (text : String) :
    (underscored text).toList = text.toList.map underscoreChar := by
  simp [underscored]

theorem underscored_append (a b : String) :
    underscored (a ++ b) = underscored a ++ underscored b := by
  apply String.toList_injective
  simp [toList_underscored]

theorem underscored_eq_self {text : String} (h : '.' ∉ text.toList) : underscored text = text := by
  apply String.toList_injective
  rw [toList_underscored, List.map_congr_left (g := id), List.map_id]
  intro c hc
  have hne : c ≠ '.' := fun hdot => h (hdot ▸ hc)
  simp [underscoreChar, hne]

theorem length_underscored (text : String) : (underscored text).length = text.length := by
  rw [← String.length_toList, toList_underscored, List.length_map, String.length_toList]

theorem underscored_underscored (text : String) :
    underscored (underscored text) = underscored text := by
  have hchar : ∀ c, underscoreChar (underscoreChar c) = underscoreChar c := by
    intro c
    unfold underscoreChar
    split <;> rfl
  apply String.toList_injective
  rw [toList_underscored, toList_underscored, List.map_map]
  exact List.map_congr_left fun c _ => hchar c

/-- The two names of a key differ in dots and underscores only. -/
theorem underscored_symbolName (parent : Option String) (key : String) :
    underscored (symbolName parent key) = underscored (dottedKey parent key) := by
  cases parent with
  | none => rfl
  | some parent =>
    have hdot : underscored "." = "_" := rfl
    have hline : underscored "_" = "_" := rfl
    simp only [symbolName, dottedKey, underscored_append, underscored_underscored, hdot, hline]

theorem underscored_dottedKey {parent : Option String} {key : String}
    (h : '.' ∉ (symbolName parent key).toList) :
    underscored (dottedKey parent key) = symbolName parent key := by
  cases parent with
  | none => exact underscored_eq_self h
  | some parent =>
    -- only the way to the key is rewritten, and the key itself has no dots here
    have hkey : '.' ∉ key.toList := fun hmem => h (by simp [symbolName, hmem])
    have hdot : underscored "." = "_" := rfl
    simp only [dottedKey, symbolName, underscored_append, underscored_eq_self hkey, hdot]

theorem symbolName_eq_dottedKey {parent : Option String} {key : String}
    (h : '.' ∉ (dottedKey parent key).toList) : symbolName parent key = dottedKey parent key := by
  cases parent with
  | none => rfl
  | some parent => exact absurd (by simp [dottedKey]) h

namespace KeyPath

/-- A symbol without dots is its dotted key written with underscores. -/
theorem underscored_dotted {path : KeyPath} (h : '.' ∉ path.symbol.toList) :
    underscored path.dotted = path.symbol := by
  rw [dotted_eq_dottedKey]
  exact underscored_dottedKey h

theorem length_symbol (path : KeyPath) : path.symbol.length = path.dotted.length := by
  rw [dotted_eq_dottedKey, symbol, ← length_underscored, underscored_symbolName, length_underscored]

/-- A dotted key without dots is its own symbol. -/
theorem symbol_eq_dotted {path : KeyPath} (h : '.' ∉ path.dotted.toList) :
    path.symbol = path.dotted := by
  rw [dotted_eq_dottedKey] at h ⊢
  exact symbolName_eq_dottedKey h

end KeyPath

/-- The symbol of an entry is as long as its dotted key. -/
theorem Document.length_symbol_of_mem_flatten {document : Document} {skipBranches : Bool}
    {entry : Entry} (h : entry ∈ document.flatten skipBranches) :
    entry.symbol.length = entry.key.length := by
  obtain ⟨row, hrow, rfl⟩ := List.mem_map.mp h
  have hresolved := (List.mem_filter.mp hrow).1
  rw [resolved_eq_map_keyPaths] at hresolved
  obtain ⟨⟨path, node⟩, -, rfl⟩ := List.mem_map.mp hresolved
  exact path.length_symbol

end MessageCatalog
