import MessageCatalog.Document.Reading
import MessageCatalog.Proofs.Entry.KeyPath
import MessageCatalog.Proofs.Json.ReadBack

/-!
# The message of a branch is a document

The message of a branch is JSON, and it can be read as a document of its own. Both limits that the
whole document was read under, the one on lists and objects around each other and the one on nested
objects, let every branch of it pass.

## Main definitions

* `Document.numbers` — all numbers in the values of a document.
* `Node.Faithful` — a node that can be written and read back under two limits.

## Main results

* `Node.toJson_of_ofJson?`: a node has the value that it was made from
* `Document.faithful_of_parse`: a document that is read is faithful, and so are all its nodes
* `Document.parse_displayValue_branch`: the message of a branch is read as its own keys
-/

namespace MessageCatalog

/-! ## Values and nodes -/

theorem Node.membersToJson_eq_map (children : List (String × Node)) :
    membersToJson children = children.map fun child => (child.1, child.2.toJson) := by
  induction children with
  | nil => rw [membersToJson, List.map_nil]
  | cons child rest ih =>
    obtain ⟨key, node⟩ := child
    rw [membersToJson, ih, List.map_cons]

mutual

/-- **A node has the value that it was made from.** -/
theorem Node.toJson_of_ofJson? {value : Json} {levels : Nat} {node : Node}
    (h : Node.ofJson? value levels = some node) : node.toJson = value := by
  cases value with
  | object members =>
    cases levels with
    | zero =>
      rw [Node.ofJson?] at h
      cases h
    | succ levels =>
      rw [Node.ofJson?] at h
      obtain ⟨children, hchildren, rfl⟩ := Option.map_eq_some_iff.mp h
      rw [Node.toJson, Node.membersToJson_of_childrenOf? hchildren]
  | _ =>
    rw [Node.ofJson?] at h
    · cases h
      rw [Node.toJson]
    · intro members hmembers
      cases hmembers

theorem Node.membersToJson_of_childrenOf? {members : List (String × Json)} {levels : Nat}
    {children : List (String × Node)} (h : Node.childrenOf? members levels = some children) :
    Node.membersToJson children = members := by
  match members with
  | [] =>
    rw [Node.childrenOf?] at h
    cases h
    rw [Node.membersToJson]
  | (key, value) :: rest =>
    rw [Node.childrenOf?] at h
    split at h
    · next hnode hnodes =>
      cases h
      rw [Node.membersToJson, Node.toJson_of_ofJson? hnode,
        Node.membersToJson_of_childrenOf? hnodes]
    · cases h

end

mutual

/-- A limit that lets a value pass can be raised. -/
theorem Node.ofJson?_mono {value : Json} {levels more : Nat} {node : Node}
    (h : Node.ofJson? value levels = some node) (hle : levels ≤ more) :
    Node.ofJson? value more = some node := by
  cases value with
  | object members =>
    cases levels with
    | zero =>
      rw [Node.ofJson?] at h
      cases h
    | succ levels =>
      cases more with
      | zero => cases hle
      | succ more =>
        rw [Node.ofJson?] at h ⊢
        obtain ⟨children, hchildren, rfl⟩ := Option.map_eq_some_iff.mp h
        rw [Node.childrenOf?_mono hchildren (Nat.le_of_succ_le_succ hle), Option.map_some]
  | _ =>
    rw [Node.ofJson?] at h ⊢
    · exact h
    · intro members hmembers
      cases hmembers
    · intro members hmembers
      cases hmembers

theorem Node.childrenOf?_mono {members : List (String × Json)} {levels more : Nat}
    {children : List (String × Node)} (h : Node.childrenOf? members levels = some children)
    (hle : levels ≤ more) : Node.childrenOf? members more = some children := by
  match members with
  | [] =>
    rw [Node.childrenOf?] at h ⊢
    exact h
  | (key, value) :: rest =>
    rw [Node.childrenOf?] at h ⊢
    split at h
    · next hnode hnodes =>
      rw [Node.ofJson?_mono hnode hle, Node.childrenOf?_mono hnodes hle]
      exact h
    · cases h

end

/-- The nodes of some members are made from their values one by one. -/
theorem Node.ofJson?_of_childrenOf? {children : List (String × Node)} {levels : Nat}
    (h : Node.childrenOf? (Node.membersToJson children) levels = some children) :
    ∀ child ∈ children, Node.ofJson? child.2.toJson levels = some child.2 := by
  induction children with
  | nil =>
    intro child hchild
    cases hchild
  | cons child rest ih =>
    obtain ⟨key, node⟩ := child
    rw [Node.membersToJson, Node.childrenOf?] at h
    split at h
    · next hnode hnodes =>
      cases h
      rw [List.forall_mem_cons]
      exact ⟨hnode, ih hnodes⟩
    · cases h

/-! ## What a branch hands down to its children -/

section

variable {p : Node → Prop}

mutual

/-- What a branch hands down to its children holds at every depth. -/
theorem Node.forall_keyPaths (hp : ∀ children, p (.branch children) → ∀ child ∈ children, p child.2)
    {node : Node} (h : p node) (path : KeyPath) : ∀ row ∈ node.keyPaths path, p row.2 := by
  cases node with
  | leaf value =>
    rw [Node.keyPaths]
    exact List.forall_mem_singleton.mpr h
  | branch children =>
    rw [Node.keyPaths, List.forall_mem_append]
    exact ⟨forall_keyPathsBelow hp (hp children h) path, List.forall_mem_singleton.mpr h⟩

theorem forall_keyPathsBelow (hp : ∀ children, p (.branch children) → ∀ child ∈ children, p child.2)
    {children : List (String × Node)} (h : ∀ child ∈ children, p child.2) (path : KeyPath) :
    ∀ row ∈ keyPathsBelow path children, p row.2 := by
  match children with
  | [] =>
    rw [keyPathsBelow]
    intro row hrow
    cases hrow
  | (key, node) :: rest =>
    rw [keyPathsBelow, List.forall_mem_append]
    rw [List.forall_mem_cons] at h
    exact ⟨Node.forall_keyPaths hp h.1 (path ++ [key]), forall_keyPathsBelow hp h.2 path⟩

end

end

/-! ## Written and read back -/

/-- A node that can be written and read back by a reader that may open `depth` lists and objects,
where objects may be nested to a number of levels. -/
structure Node.Faithful (depth levels : Nat) (node : Node) : Prop where
  readable : Json.Readable depth node.toJson
  whole : ∀ n ∈ node.toJson.numbers, n.isWhole = true
  ofJson? : Node.ofJson? node.toJson levels = some node

/-- The children of a faithful branch are faithful. -/
theorem Node.Faithful.child {depth levels : Nat} {children : List (String × Node)}
    (h : (Node.branch children).Faithful depth levels) :
    ∀ child ∈ children, child.2.Faithful depth levels := by
  obtain ⟨hreadable, hwhole, hnode⟩ := h
  rw [Node.toJson] at hreadable hwhole hnode
  intro child hchild
  have hmember : (child.1, child.2.toJson) ∈ Node.membersToJson children := by
    rw [Node.membersToJson_eq_map]
    exact List.mem_map.mpr ⟨child, hchild, rfl⟩
  refine ⟨?_, ?_, ?_⟩
  · cases hreadable with
    | object _ hmembers => exact (hmembers _ hmember).mono (Nat.le_succ _)
  · intro n hn
    apply hwhole
    rw [Json.numbers_object]
    exact List.mem_flatMap.mpr ⟨_, hmember, hn⟩
  · cases levels with
    | zero =>
      rw [Node.ofJson?] at hnode
      cases hnode
    | succ levels =>
      rw [Node.ofJson?] at hnode
      obtain ⟨others, hchildren, hbranch⟩ := Option.map_eq_some_iff.mp hnode
      obtain rfl := Node.branch.inj hbranch
      exact Node.ofJson?_mono (Node.ofJson?_of_childrenOf? hchildren child hchild)
        (Nat.le_succ levels)

namespace Document

/-- All numbers in the values of a document. -/
def numbers (document : Document) : List Json.Number :=
  (Node.branch document.children).toJson.numbers

variable {name content : String} {maxDepth : Nat} {document : Document}

/-- A document of whole numbers that is read can be written and read back. -/
theorem faithful_of_parse (hparse : parse name content maxDepth = .ok document)
    (hwhole : ∀ n ∈ document.numbers, n.isWhole = true) :
    (Node.branch document.children).Faithful Json.maxOpen maxDepth := by
  unfold parse at hparse
  split at hparse
  · next value hvalue =>
    unfold ofJson at hparse
    split at hparse
    · next children hnode =>
      cases hparse
      have htoJson : (Node.branch children).toJson = value := Node.toJson_of_ofJson? hnode
      refine ⟨?_, hwhole, ?_⟩
      · rw [htoJson]
        exact Json.readable_of_parse hvalue
      · rw [htoJson]
        exact hnode
    · cases hparse
    · cases hparse
  · cases hparse

/-- **The message of a branch is read as its own keys**, under any name, where the document as a
whole was read under the same limit and has no floating-point numbers. -/
theorem parse_displayValue_branch (hparse : parse name content maxDepth = .ok document)
    (hwhole : ∀ n ∈ document.numbers, n.isWhole = true) {path : KeyPath}
    {children : List (String × Node)}
    (hnode : (path, Node.branch children) ∈ (Node.branch document.children).keyPaths [])
    (other : String) :
    parse other (Node.branch children).displayValue maxDepth = .ok ⟨other, children⟩ := by
  have hfaithful : (Node.branch children).Faithful Json.maxOpen maxDepth :=
    Node.forall_keyPaths (fun _ => Node.Faithful.child) (faithful_of_parse hparse hwhole) []
      (path, Node.branch children) hnode
  rw [Node.displayValue_branch, parse,
    Json.parse_compact hfaithful.readable hfaithful.whole]
  show ofJson other (Node.branch children).toJson maxDepth = _
  rw [ofJson, hfaithful.ofJson?]

/-- A text of a document with a branch that repeats a name, and holds escapes, a list, the largest and
the least whole number and a branch without keys. -/
def nestedText : String :=
  "\x7b \"a\": \x7b\"b\\n\": 1, \"\": \x7b\x7d, \"b\\n\": [\"x\\u00e9\", \x7b\x7d],\n" ++
    "\"n\": [18446744073709551615, -9223372036854775808]\x7d, \"t\": true\x7d"

theorem exists_branch_of_parse_nestedText :
    (match parse "en" nestedText 3 with
    | .ok document => decide ((∀ n ∈ document.numbers, n.isWhole = true) ∧
        ∃ row ∈ (Node.branch document.children).keyPaths [],
          row.1 = ["a"] ∧ row.2.isBranch = true)
    | .error _ => false) = true := by
  decide +kernel

/-- A branch of a document is read back under the limit that the whole document just keeps. -/
theorem exists_branch_read_back :
    ∃ document children, parse "en" nestedText 3 = .ok document ∧
      (∀ n ∈ document.numbers, n.isWhole = true) ∧
      (["a"], Node.branch children) ∈ (Node.branch document.children).keyPaths [] ∧
      parse "a" (Node.branch children).displayValue 3 = .ok ⟨"a", children⟩ := by
  have hcheck := exists_branch_of_parse_nestedText
  cases hparse : parse "en" nestedText 3 with
  | error e =>
    rw [hparse] at hcheck
    cases hcheck
  | ok document =>
    rw [hparse] at hcheck
    obtain ⟨hwhole, ⟨path, node⟩, hrow, rfl, hbranch⟩ := of_decide_eq_true hcheck
    cases node with
    | leaf value => cases hbranch
    | branch children =>
      exact ⟨document, children, rfl, hwhole, hrow,
        parse_displayValue_branch hparse hwhole hrow "a"⟩

end Document

end MessageCatalog
