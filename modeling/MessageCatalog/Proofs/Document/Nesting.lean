import MessageCatalog.Proofs.Document.RoundTrip

/-!
# How deep objects are nested

The root of a document is the first level of it, and an object that is the value of a member stands
one level below the object with that member. Lists are leaves, whatever they hold. A limit on the
levels decides only whether a value becomes a document: the keys of the document are the same under
every limit that lets it pass, and they make up the value again.

## Main definitions

* `Json.objectLevels` — the levels of objects in a value.
* `Node.collected` — the value of a node whose keys are collected into objects one by one.
* `Node.KeepsObjects` — no object of the node is a leaf.

## Main results

* `Node.isSome_ofJson?_iff`: a limit lets a value pass if and only if its levels keep to it
* `Node.collected_eq_toJson`: keys that are not repeated can be collected one by one
* `Node.eq_of_toJson_eq`: a node in which all objects are branches is fixed by its value
* `Document.exists_ofJson_eq_of_wellFormed`: an object becomes a document under the limits that its
  levels keep to, and under each of them with the same keys
-/

namespace MessageCatalog

/-! ## Levels -/

mutual

/-- The levels of objects in a value: an object has one more than the values of its members, and
whatever is no object has none. -/
def Json.objectLevels : Json → Nat
  | .object members => Json.objectLevelsBelow members + 1
  | _ => 0

/-- The most levels of objects in the value of one of some members. -/
def Json.objectLevelsBelow : List (String × Json) → Nat
  | [] => 0
  | (_, value) :: rest => max (Json.objectLevels value) (Json.objectLevelsBelow rest)

end

mutual

/-- **A limit lets a value pass if and only if its levels keep to it.** -/
theorem Node.isSome_ofJson?_iff (value : Json) (levels : Nat) :
    (Node.ofJson? value levels).isSome ↔ value.objectLevels ≤ levels := by
  cases value with
  | object members =>
    rw [Json.objectLevels]
    cases levels with
    | zero => simp [Node.ofJson?]
    | succ levels =>
      rw [Node.ofJson?, Option.isSome_map, Node.isSome_childrenOf?_iff, Nat.add_le_add_iff_right]
  | _ => simp [Node.ofJson?, Json.objectLevels]

theorem Node.isSome_childrenOf?_iff (members : List (String × Json)) (levels : Nat) :
    (Node.childrenOf? members levels).isSome ↔ Json.objectLevelsBelow members ≤ levels := by
  match members with
  | [] => simp [Node.childrenOf?, Json.objectLevelsBelow]
  | (key, value) :: rest =>
    rw [Json.objectLevelsBelow, Nat.max_le, ← Node.isSome_ofJson?_iff value levels,
      ← Node.isSome_childrenOf?_iff rest levels, Node.childrenOf?]
    -- one member that is too deep stops the whole object, be it the first or a later one
    cases Node.ofJson? value levels <;> cases Node.childrenOf? rest levels <;> simp

end

/-- The node of a value does not depend on the limit. -/
theorem Node.exists_ofJson?_eq (value : Json) :
    ∃ node, ∀ levels, Node.ofJson? value levels =
      if value.objectLevels ≤ levels then some node else none := by
  obtain ⟨node, hnode⟩ := Option.isSome_iff_exists.mp
    ((Node.isSome_ofJson?_iff value value.objectLevels).mpr (Nat.le_refl _))
  refine ⟨node, fun levels => ?_⟩
  split
  · next hle => exact Node.ofJson?_mono hnode hle
  · next hdeep =>
    rw [← Node.isSome_ofJson?_iff, Option.not_isSome_iff_eq_none] at hdeep
    exact hdeep

/-! ## Collected objects -/

mutual

/-- The value of a node where the keys of every branch are collected one by one: a key that is there
already keeps its place and takes the later value. -/
def Node.collected : Node → Json
  | .branch children => .object (Json.membersOf (Node.collectedMembers children))
  | .leaf value => value

/-- The collected values of some keys. -/
def Node.collectedMembers : List (String × Node) → List (String × Json)
  | [] => []
  | (key, node) :: rest => (key, Node.collected node) :: Node.collectedMembers rest

end

mutual

/-- Where no object repeats a name, the keys of branches can be collected one by one. -/
theorem Node.collected_eq_toJson {node : Node} (h : node.toJson.WellFormed) :
    node.collected = node.toJson := by
  cases node with
  | leaf value => rw [Node.collected, Node.toJson]
  | branch children =>
    rw [Node.toJson, Json.WellFormed] at h
    rw [Node.collected, Node.toJson, Node.collectedMembers_eq_membersToJson h.2,
      Json.membersOf_eq_self h.1]

theorem Node.collectedMembers_eq_membersToJson {children : List (String × Node)}
    (h : Json.WellFormedMembers (Node.membersToJson children)) :
    Node.collectedMembers children = Node.membersToJson children := by
  match children with
  | [] => rw [Node.collectedMembers, Node.membersToJson]
  | (key, node) :: rest =>
    rw [Node.membersToJson, Json.WellFormedMembers] at h
    rw [Node.collectedMembers, Node.membersToJson, Node.collected_eq_toJson h.1,
      Node.collectedMembers_eq_membersToJson h.2]

end

/-! ## Branches and leaves -/

/-- No object of the node is a leaf. -/
inductive Node.KeepsObjects : Node → Prop where
  | leaf {value : Json} (hvalue : value.kind ≠ .object) : KeepsObjects (.leaf value)
  | branch {children : List (String × Node)}
      (hchildren : ∀ child ∈ children, KeepsObjects child.2) : KeepsObjects (.branch children)

mutual

theorem Node.keepsObjects_of_ofJson? {value : Json} {levels : Nat} {node : Node}
    (h : Node.ofJson? value levels = some node) : node.KeepsObjects := by
  cases value with
  | object members =>
    cases levels with
    | zero =>
      rw [Node.ofJson?] at h
      cases h
    | succ levels =>
      rw [Node.ofJson?] at h
      obtain ⟨children, hchildren, rfl⟩ := Option.map_eq_some_iff.mp h
      exact .branch (Node.keepsObjects_of_childrenOf? hchildren)
  | _ =>
    rw [Node.ofJson?] at h
    · cases h
      exact .leaf (by simp [Json.kind])
    · intro members hmembers
      cases hmembers

theorem Node.keepsObjects_of_childrenOf? {members : List (String × Json)} {levels : Nat}
    {children : List (String × Node)} (h : Node.childrenOf? members levels = some children) :
    ∀ child ∈ children, child.2.KeepsObjects := by
  match members with
  | [] =>
    rw [Node.childrenOf?] at h
    cases h
    exact List.forall_mem_nil _
  | (key, value) :: rest =>
    rw [Node.childrenOf?] at h
    split at h
    · next hnode hnodes =>
      cases h
      exact List.forall_mem_cons.mpr
        ⟨Node.keepsObjects_of_ofJson? hnode, Node.keepsObjects_of_childrenOf? hnodes⟩
    · cases h

end

mutual

/-- **A node in which all objects are branches is fixed by its value.** -/
theorem Node.eq_of_toJson_eq {node other : Node} (hnode : node.KeepsObjects)
    (hother : other.KeepsObjects) (h : node.toJson = other.toJson) : node = other := by
  cases hnode with
  | leaf hvalue =>
    cases hother with
    | leaf =>
      rw [Node.toJson, Node.toJson] at h
      rw [h]
    | branch =>
      rw [Node.toJson, Node.toJson] at h
      rw [h] at hvalue
      exact absurd rfl hvalue
  | branch hchildren =>
    cases hother with
    | leaf hvalue =>
      rw [Node.toJson, Node.toJson] at h
      rw [← h] at hvalue
      exact absurd rfl hvalue
    | branch hothers =>
      rw [Node.toJson, Node.toJson] at h
      rw [Node.eq_of_membersToJson_eq hchildren hothers (Json.object.inj h)]

theorem Node.eq_of_membersToJson_eq {children others : List (String × Node)}
    (hchildren : ∀ child ∈ children, child.2.KeepsObjects)
    (hothers : ∀ child ∈ others, child.2.KeepsObjects)
    (h : Node.membersToJson children = Node.membersToJson others) : children = others := by
  match children, others with
  | [], [] => rfl
  | [], (key, node) :: rest =>
    rw [Node.membersToJson, Node.membersToJson] at h
    cases h
  | (key, node) :: rest, [] =>
    rw [Node.membersToJson, Node.membersToJson] at h
    cases h
  | (key, node) :: rest, (key', node') :: rest' =>
    rw [List.forall_mem_cons] at hchildren hothers
    rw [Node.membersToJson, Node.membersToJson] at h
    obtain ⟨hfirst, hrest⟩ := List.cons.inj h
    obtain ⟨rfl, hvalue⟩ := Prod.mk.inj hfirst
    obtain rfl : node = node' := Node.eq_of_toJson_eq hchildren.1 hothers.1 hvalue
    rw [Node.eq_of_membersToJson_eq hchildren.2 hothers.2 hrest]

end

/-! ## Objects as documents -/

namespace Document

/-- **Which objects become documents, and which documents they become.** There are keys such that an
object that repeats no name becomes the document with these keys under every limit that its levels
keep to, and is too deep under every other limit. Collected again, these keys are the object, with
its names in their order at every level; and no other keys are, as long as objects are branches. -/
theorem exists_ofJson_eq_of_wellFormed {members : List (String × Json)}
    (h : (Json.object members).WellFormed) :
    ∃ children : List (String × Node),
      (∀ name maxDepth, ofJson name (.object members) maxDepth =
        if (Json.object members).objectLevels ≤ maxDepth then .ok ⟨name, children⟩
        else .error (.tooDeep maxDepth)) ∧
      (Node.branch children).toJson = .object members ∧
      (Node.branch children).collected = .object members ∧
      (Node.branch children).KeepsObjects ∧
      ∀ other : Node, other.KeepsObjects → other.toJson = .object members →
        other = .branch children := by
  obtain ⟨node, hnode⟩ := Node.exists_ofJson?_eq (.object members)
  have hread := (hnode (Json.object members).objectLevels).trans (if_pos (Nat.le_refl _))
  have hkeeps : node.KeepsObjects := Node.keepsObjects_of_ofJson? hread
  have htoJson : node.toJson = .object members := Node.toJson_of_ofJson? hread
  cases node with
  | leaf value =>
    -- an object is no leaf
    cases hkeeps with
    | leaf hvalue =>
      rw [Node.toJson] at htoJson
      rw [htoJson] at hvalue
      exact absurd rfl hvalue
  | branch children =>
    refine ⟨children, fun name maxDepth => ?_, htoJson, ?_, hkeeps, fun other hother hsame => ?_⟩
    · rw [ofJson, hnode maxDepth]
      by_cases hle : (Json.object members).objectLevels ≤ maxDepth
      · simp only [if_pos hle]
      · simp only [if_neg hle]
    · rw [← htoJson] at h ⊢
      exact Node.collected_eq_toJson h
    · exact Node.eq_of_toJson_eq hother hkeeps (hsame.trans htoJson.symm)

/-- An object with three levels, the deepest not in its first member. A list in it holds more. -/
def deepMembers : List (String × Json) :=
  [("title", .string "deep"), ("list", .array [.object [("a", .object [("b", .object [])])]]),
    ("x", .object [("y", .number (.natural 1)), ("", .object [])]), ("last", .null)]

/-- A document of three levels is read under the limit of three levels, and not under that of two. -/
theorem exists_ofJson_eq_deepMembers :
    ∃ children, ofJson "en" (.object deepMembers) 3 = .ok ⟨"en", children⟩ ∧
      ofJson "en" (.object deepMembers) 2 = .error (.tooDeep 2) ∧
      (Node.branch children).collected = .object deepMembers := by
  have hwellFormed : (Json.object deepMembers).WellFormed := by
    simp [deepMembers, Json.WellFormed, Json.WellFormedMembers, Json.WellFormedElements]
  obtain ⟨children, hofJson, -, hcollected, -⟩ := exists_ofJson_eq_of_wellFormed hwellFormed
  exact ⟨children, (hofJson "en" 3).trans (if_pos (by decide)),
    (hofJson "en" 2).trans (if_neg (by decide)), hcollected⟩

end Document

end MessageCatalog
