import MessageCatalog.Proofs.Entry.Distinctness

/-!
# Keys that collide

The symbol of a key is as long as its dotted key, and the two differ only where one has a dot and
the other an underscore. So the dotted keys that share a symbol are spelled alike up to dots and
underscores. A key never shares its symbol with one below it, which has the longer name.

## Main definitions

* `AgreeUpToDots` — two texts are spelled alike up to dots and underscores.

## Main results

* `agreeUpToDots_iff`: with dots written as underscores, such texts are one
* `underscored_symbol_of_mem_resolve`: so are the two names of every key
* `Node.at?_append`: what is below a key has the path of the key in front
* `Document.agreeUpToDots_of_collision`: keys that collide agree up to dots, and no key collides with
  one below it
-/

namespace MessageCatalog

/-! ## Texts that agree up to dots -/

/-- Two characters are the same, or one is a dot and the other an underscore. -/
def AgreeingChars (c d : Char) : Prop :=
  c = d ∨ c = '.' ∧ d = '_' ∨ c = '_' ∧ d = '.'

/-- Two texts are equally long and agree at every position, up to a dot in one of them where the
other has an underscore. -/
structure AgreeUpToDots (one other : String) : Prop where
  length_eq : one.length = other.length
  agreeing : ∀ index : Nat, ∀ c ∈ one.toList[index]?, ∀ d ∈ other.toList[index]?, AgreeingChars c d

theorem underscoreChar_eq_iff {c d : Char} :
    underscoreChar c = underscoreChar d ↔ AgreeingChars c d := by
  unfold underscoreChar AgreeingChars
  split <;> split <;> grind

/-- **Texts that agree up to dots are those that are one when their dots are written as
underscores.** -/
theorem agreeUpToDots_iff {one other : String} :
    AgreeUpToDots one other ↔ underscored one = underscored other := by
  constructor
  · rintro ⟨hlength, hagreeing⟩
    apply String.toList_injective
    rw [toList_underscored, toList_underscored]
    have hchars : one.toList.length = other.toList.length := by
      rw [String.length_toList, String.length_toList, hlength]
    refine List.ext_getElem (by simpa using hchars) fun index hone hother => ?_
    rw [List.length_map] at hone hother
    rw [List.getElem_map, List.getElem_map, underscoreChar_eq_iff]
    exact hagreeing index _ (List.getElem?_eq_getElem hone) _ (List.getElem?_eq_getElem hother)
  · intro h
    refine ⟨by rw [← length_underscored, h, length_underscored], fun index c hc d hd => ?_⟩
    have hchars := congrArg (fun text => text.toList[index]?) h
    simp only [toList_underscored, List.getElem?_map, Option.mem_def.mp hc, Option.mem_def.mp hd,
      Option.map_some, Option.some.injEq] at hchars
    exact underscoreChar_eq_iff.mp hchars

/-! ## The two names of a key -/

/-- **The two names of every key agree up to dots**, below any parent. -/
theorem underscored_symbol_of_mem_resolve {parent : Option String}
    {children : List (String × Node)} {row : Entry × Node} (h : row ∈ resolve parent children) :
    underscored row.1.symbol = underscored row.1.key := by
  rw [resolve_eq_map_rowBelow] at h
  obtain ⟨⟨path, node⟩, -, rfl⟩ := List.mem_map.mp h
  rw [KeyPath.rowBelow, KeyPath.entryBelow_eq_entry]
  exact KeyPath.underscored_symbol _

theorem Document.underscored_symbol_of_mem_flatten {document : Document} {skipBranches : Bool}
    {entry : Entry} (h : entry ∈ document.flatten skipBranches) :
    underscored entry.symbol = underscored entry.key := by
  obtain ⟨row, hrow, rfl⟩ := List.mem_map.mp h
  exact underscored_symbol_of_mem_resolve (List.mem_filter.mp hrow).1

/-- The keys of a collision are those of entries with its symbol. -/
theorem exists_entry_of_mem_keys {entries : List Entry} {collision : Collision}
    (h : collision ∈ findCollisions entries) {key : String} (hkey : key ∈ collision.keys) :
    ∃ entry ∈ entries, entry.symbol = collision.symbol ∧ entry.key = key := by
  rw [(reportsCollisions_findCollisions entries).keys_eq collision h] at hkey
  obtain ⟨entry, hentry, rfl⟩ := List.mem_map.mp hkey
  obtain ⟨hmem, hsymbol⟩ := List.mem_filter.mp hentry
  exact ⟨entry, hmem, of_decide_eq_true hsymbol, rfl⟩

/-- The keys of a collision are spelled like its symbol, up to dots and underscores. -/
theorem Document.underscored_of_mem_keys {document : Document} {skipBranches : Bool}
    {collision : Collision} (h : collision ∈ findCollisions (document.flatten skipBranches))
    {key : String} (hkey : key ∈ collision.keys) :
    underscored key = underscored collision.symbol := by
  obtain ⟨entry, hentry, hsymbol, rfl⟩ := exists_entry_of_mem_keys h hkey
  rw [← hsymbol]
  exact (Document.underscored_symbol_of_mem_flatten hentry).symm

/-! ## Keys below other keys -/

/-- A key below another one has the longer dotted key. -/
theorem KeyPath.length_dotted_lt {path rest : KeyPath} (hpath : path ≠ []) (hrest : rest ≠ []) :
    path.dotted.length < (dotted (path ++ rest)).length := by
  have hjoined : dotted (path ++ rest) = path.dotted ++ "." ++ dotted rest :=
    String.intercalate_append_of_ne_nil hpath hrest
  have hdot : ".".length = 1 := rfl
  rw [hjoined, String.length_append, String.length_append]
  omega

/-- **What is below a key has the path of the key in front.** -/
theorem Node.at?_append (node : Node) (above below : Address) :
    node.at? (above ++ below) =
      (node.at? above).bind fun row => (row.2.at? below).map row.1.below := by
  induction above generalizing node with
  | nil =>
    have hbelow : KeyPath.below [] = id := rfl
    simp [Node.at?, hbelow]
  | cons index rest ih =>
    cases node with
    | leaf value => rfl
    | branch children =>
      cases hchild : children[index]? with
      | none => simp [Node.at?, hchild]
      | some first =>
        obtain ⟨key, child⟩ := first
        rw [List.cons_append, Node.at?_branch_cons hchild, Node.at?_branch_cons hchild, ih]
        rw [Option.map_bind, Option.bind_map]
        congr 1
        funext row
        simp only [Function.comp_apply, Option.map_map]
        rfl

/-- A key has a shorter name than those below it. -/
theorem Node.length_dotted_lt {node : Node} {above below : Address} (habove : above ≠ [])
    (hbelow : below ≠ []) {row row' : KeyPath × Node} (h : node.at? above = some row)
    (h' : node.at? (above ++ below) = some row') : row.1.dotted.length < row'.1.dotted.length := by
  rw [Node.at?_append, h, Option.bind_some] at h'
  obtain ⟨rest, hrest, rfl⟩ := Option.map_eq_some_iff.mp h'
  exact KeyPath.length_dotted_lt (Node.path_ne_nil_of_at? habove h)
    (Node.path_ne_nil_of_at? hbelow hrest)

/-! ## Collisions -/

/-- **Keys that collide agree up to dots.** The two names of every key agree up to dots, and with
their dots written as underscores they are one. So do the keys of one collision. No key collides
with one below it: their symbols differ, and no collision holds the dotted keys of both. -/
theorem Document.agreeUpToDots_of_collision (document : Document) :
    (∀ parent, ∀ row ∈ resolve parent document.children,
      row.1.symbol.length = row.1.key.length ∧
        underscored row.1.symbol = underscored row.1.key) ∧
    (∀ skipBranches, ∀ collision ∈ findCollisions (document.flatten skipBranches),
      ∀ key ∈ collision.keys, ∀ other ∈ collision.keys, AgreeUpToDots key other) ∧
    ∀ above below : Address, above ≠ [] → below ≠ [] →
      ∀ row ∈ (Node.branch document.children).at? above,
        ∀ row' ∈ (Node.branch document.children).at? (above ++ below),
          row.1.symbol ≠ row'.1.symbol ∧
            ∀ skipBranches, ∀ collision ∈ findCollisions (document.flatten skipBranches),
              row.1.dotted ∈ collision.keys → row'.1.dotted ∉ collision.keys := by
  have hcollision : ∀ skipBranches, ∀ collision ∈ findCollisions (document.flatten skipBranches),
      ∀ key ∈ collision.keys, ∀ other ∈ collision.keys, AgreeUpToDots key other := by
    intro skipBranches collision h key hkey other hother
    rw [agreeUpToDots_iff, underscored_of_mem_keys h hkey, underscored_of_mem_keys h hother]
  refine ⟨fun parent row hrow => ?_, hcollision, ?_⟩
  · have hnames := underscored_symbol_of_mem_resolve hrow
    exact ⟨(agreeUpToDots_iff.mpr hnames).length_eq, hnames⟩
  · intro above below habove hbelow row hrow row' hrow'
    have hlt : row.1.dotted.length < row'.1.dotted.length :=
      Node.length_dotted_lt habove hbelow hrow hrow'
    constructor
    · -- a symbol is as long as its dotted key
      intro hsymbol
      rw [← KeyPath.length_symbol, ← KeyPath.length_symbol, hsymbol] at hlt
      exact Nat.lt_irrefl _ hlt
    · intro skipBranches collision h hkey hkey'
      exact hlt.ne (hcollision skipBranches collision h _ hkey _ hkey').length_eq

/-- A document in which three keys share one symbol and two keys share another one, which is the way
to a key of the first. -/
def crossingDocument : Document :=
  ⟨"en", [("a", .branch [("b_c", .leaf .null), ("b", .branch [("c", .leaf .null)])]),
    ("a_b", .branch [("c", .leaf .null)])]⟩

/-- Keys collide across branches, and the key `c` does not collide with the one above it. -/
theorem Document.agreeUpToDots_crossingDocument :
    findCollisions (crossingDocument.flatten false) =
        [⟨"a_b_c", ["a.b_c", "a.b.c", "a_b.c"]⟩, ⟨"a_b", ["a.b", "a_b"]⟩] ∧
      AgreeUpToDots "a.b_c" "a_b.c" ∧ underscored "a_b_c" = underscored "a.b.c" ∧
      KeyPath.symbol ["a", "b"] ≠ KeyPath.symbol ["a", "b", "c"] := by
  have hfound : findCollisions (crossingDocument.flatten false) =
      [⟨"a_b_c", ["a.b_c", "a.b.c", "a_b.c"]⟩, ⟨"a_b", ["a.b", "a_b"]⟩] := by
    decide
  have hrow : (⟨"a_b_c", "a.b.c"⟩, .leaf .null) ∈ resolve none crossingDocument.children :=
    List.mem_cons_of_mem _ List.mem_cons_self
  obtain ⟨hnames, hcollision, hbelow⟩ := agreeUpToDots_of_collision crossingDocument
  refine ⟨hfound, ?_, (hnames none _ hrow).2, ?_⟩
  · apply hcollision false ⟨"a_b_c", ["a.b_c", "a.b.c", "a_b.c"]⟩
    · rw [hfound]
      exact List.mem_cons_self
    · exact List.mem_cons_self
    · simp
  · exact (hbelow [0, 1] [0] (by simp) (by simp) (["a", "b"], .branch [("c", .leaf .null)]) rfl
      (["a", "b", "c"], .leaf .null) rfl).1

end MessageCatalog
