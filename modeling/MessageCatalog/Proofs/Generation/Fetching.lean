import MessageCatalog.Proofs.Entry.Check
import MessageCatalog.Proofs.Entry.KeyPath
import MessageCatalog.Proofs.Generation.Origin
import MessageCatalog.Proofs.Table.Lookup
import MessageCatalog.Proofs.Text.Identifier

/-!
# What constants fetch

A constant is used to look its message up, by its dotted key or by its symbol. A strict run makes
sure that the symbols of the constants are identifiers and distinct, but the table holds the keys of
all documents, branches included, and knows them by their symbols only.

## Main definitions

* `Document.constants` — the rows of a document that become constants.
* `Table.Fetches` — a constant fetches its own message in a locale.
* `Document.Outdone` — a branch takes the place of a constant in the table.

## Main results

* `Table.lookup?_build_of_checked`: in a document that passes the checks, every key fetches its own
  message
* `fetches_iff_not_outdone_of_strict`: a constant of a strict run fetches its own message unless a
  branch outdoes it, which happens only if branches have no constants
* `lookup?_eq_lastNode?_of_strict`: what a constant of a strict run fetches in any locale
-/

namespace MessageCatalog

/-- The rows of a document that become constants, without branches if `skipBranches` is set. -/
def Document.constants (document : Document) (skipBranches : Bool) : List (Entry × Node) :=
  document.resolved.filter fun (_, node) => !(skipBranches && node.isBranch)

/-- A constant fetches its own message in a locale, by its dotted key and by its symbol. -/
def Table.Fetches (table : Table) (locale : String) (constant : Entry × Node) : Prop :=
  table.lookup? locale constant.1.key = some constant.2.displayValue ∧
    table.lookup? locale constant.1.symbol = some constant.2.displayValue

/-- A branch with another message outdoes a constant: of the keys with the symbol of the constant,
or of those whose symbol is the dotted key of the constant, it is the last. -/
def Document.Outdone (document : Document) (constant : Entry × Node) : Prop :=
  ∃ text ∈ [constant.1.symbol, constant.1.key], ∃ branch ∈ document.lastNode? text,
    branch.isBranch = true ∧ branch.displayValue ≠ constant.2.displayValue

instance (table : Table) (locale : String) (constant : Entry × Node) :
    Decidable (table.Fetches locale constant) :=
  inferInstanceAs (Decidable (_ ∧ _))

instance (document : Document) (constant : Entry × Node) :
    Decidable (document.Outdone constant) :=
  inferInstanceAs (Decidable (∃ text ∈ [constant.1.symbol, constant.1.key],
    ∃ branch ∈ document.lastNode? text,
      branch.isBranch = true ∧ branch.displayValue ≠ constant.2.displayValue))

/-! ## The rows of a document -/

theorem Document.flatten_eq_map_constants (document : Document) (skipBranches : Bool) :
    document.flatten skipBranches = (document.constants skipBranches).map Prod.fst := rfl

theorem Document.mem_constants_iff {document : Document} {skipBranches : Bool}
    {row : Entry × Node} :
    row ∈ document.constants skipBranches ↔
      row ∈ document.resolved ∧ (skipBranches = true → row.2.isBranch = false) := by
  cases skipBranches <;> simp [constants]

theorem Document.exists_path_of_mem_resolved {document : Document} {row : Entry × Node}
    (h : row ∈ document.resolved) :
    ∃ path, (path, row.2) ∈ document.keyPaths ∧ row.1 = path.entry := by
  rw [resolved_eq_map_keyPaths] at h
  obtain ⟨⟨path, node⟩, hmem, rfl⟩ := List.mem_map.mp h
  exact ⟨path, hmem, rfl⟩

theorem Document.mem_resolved_of_mem_keyPaths {document : Document} {row : KeyPath × Node}
    (h : row ∈ document.keyPaths) : (row.1.entry, row.2) ∈ document.resolved := by
  rw [resolved_eq_map_keyPaths]
  exact List.mem_map_of_mem h

/-- The last key with a symbol stands at some path. -/
theorem Document.exists_path_of_lastNode?_eq_some {document : Document} {symbol : String}
    {node : Node} (h : document.lastNode? symbol = some node) :
    ∃ path, (path, node) ∈ document.keyPaths ∧ path.symbol = symbol := by
  obtain ⟨entry, hrow, hsymbol⟩ := exists_row_of_lastNode?_eq_some h
  obtain ⟨path, hpath, hentry⟩ := exists_path_of_mem_resolved hrow
  exact ⟨path, hpath, (congrArg Entry.symbol hentry).symm.trans hsymbol⟩

theorem Document.lastNode?_eq_none_iff_keyPaths {document : Document} {symbol : String} :
    document.lastNode? symbol = none ↔ ∀ row ∈ document.keyPaths, row.1.symbol ≠ symbol := by
  rw [lastNode?_eq_none_iff, resolved_eq_map_keyPaths]
  exact List.forall_mem_map

/-- Where the symbol of a row has no dots, its dotted key is answered by the last key of which that
is the symbol, or else by the last key with the symbol of the row. -/
theorem Document.nodeFor?_key {document : Document} {row : Entry × Node}
    {path : KeyPath} (hentry : row.1 = path.entry) (hdot : '.' ∉ row.1.symbol.toList) :
    document.nodeFor? row.1.key =
      (document.lastNode? row.1.key).or (document.lastNode? row.1.symbol) := by
  have hsymbol : row.1.symbol = path.symbol := by rw [hentry]; rfl
  have hkey : row.1.key = path.dotted := by rw [hentry]; rfl
  rw [hsymbol] at hdot
  rw [nodeFor?, hsymbol, hkey, KeyPath.underscored_dotted hdot]
  -- a dotted key without dots is the symbol, which is then asked for only once
  split
  · rfl
  · next hkeydot => rw [KeyPath.symbol_eq_dotted hkeydot, Option.or_none, Option.or_self]

theorem Document.nodeFor?_of_dot_not_mem {document : Document} {text : String}
    (h : '.' ∉ text.toList) : document.nodeFor? text = document.lastNode? text := by
  rw [nodeFor?, if_neg h, Option.or_none]

/-! ## Constants of a document that passes the checks -/

section Checked

variable {document : Document} {skipBranches : Bool}
  (hsymbols : ((document.flatten skipBranches).map Entry.symbol).Nodup)
  (hidentifiers : ∀ entry ∈ document.flatten skipBranches, Text.isIdentifier entry.symbol = true)

include hidentifiers in
theorem Document.dot_not_mem_symbol {constant : Entry × Node}
    (h : constant ∈ document.constants skipBranches) : '.' ∉ constant.1.symbol.toList :=
  Text.dot_not_mem_of_isIdentifier (hidentifiers _ (List.mem_map_of_mem h))

include hsymbols in
theorem Document.constant_eq_of_symbol_eq {constant other : Entry × Node}
    (h : constant ∈ document.constants skipBranches)
    (hother : other ∈ document.constants skipBranches)
    (hsymbol : other.1.symbol = constant.1.symbol) : other = constant := by
  rw [flatten_eq_map_constants, List.map_map] at hsymbols
  exact List.inj_on_of_nodup_map hsymbols hother h hsymbol

include hsymbols hidentifiers in
/-- The last key with the symbol or the dotted key of a constant is that constant or a branch that
is no constant. -/
theorem Document.eq_or_isBranch_of_lastNode? {constant : Entry × Node}
    (h : constant ∈ document.constants skipBranches) {text : String}
    (htext : text = constant.1.symbol ∨ text = constant.1.key) {node : Node}
    (hlast : document.lastNode? text = some node) :
    node = constant.2 ∨ (skipBranches = true ∧ node.isBranch = true) := by
  obtain ⟨entry, hrow, hsymbol⟩ := exists_row_of_lastNode?_eq_some hlast
  by_cases hskip : skipBranches = true ∧ node.isBranch = true
  · exact Or.inr hskip
  -- any other key is a constant itself
  have hconstant : (entry, node) ∈ document.constants skipBranches := by
    rw [mem_constants_iff]
    refine ⟨hrow, fun hs => ?_⟩
    by_contra hbranch
    exact hskip ⟨hs, by simpa using hbranch⟩
  have hsame : entry.symbol = constant.1.symbol := by
    rcases htext with rfl | rfl
    · exact hsymbol
    · -- the symbol of a constant has no dots, so a key that is one is a symbol itself
      obtain ⟨path, -, hpath⟩ := exists_path_of_mem_resolved (mem_constants_iff.mp h).1
      have hdot := dot_not_mem_symbol hidentifiers hconstant
      rw [hsymbol, hpath] at hdot
      rw [hsymbol, hpath]
      exact (KeyPath.symbol_eq_dotted hdot).symm
  exact Or.inl (congrArg Prod.snd (constant_eq_of_symbol_eq hsymbols h hconstant hsame))

include hsymbols hidentifiers in
theorem Document.fetches_iff_not_outdone {table : Table} {locale : String}
    (htable : ∀ key, table.lookup? locale key = (document.nodeFor? key).map Node.displayValue)
    {constant : Entry × Node} (h : constant ∈ document.constants skipBranches) :
    table.Fetches locale constant ↔ ¬ document.Outdone constant := by
  have hrow := (mem_constants_iff.mp h).1
  have hdot := dot_not_mem_symbol hidentifiers h
  obtain ⟨path, -, hpath⟩ := exists_path_of_mem_resolved hrow
  obtain ⟨last, hlast⟩ : ∃ last, document.lastNode? constant.1.symbol = some last :=
    Option.ne_none_iff_exists'.mp fun hnone => lastNode?_eq_none_iff.mp hnone _ hrow rfl
  rw [Table.Fetches, htable, htable, nodeFor?_key hpath hdot, nodeFor?_of_dot_not_mem hdot, hlast]
  constructor
  · -- the look-up by either name meets the branch
    rintro ⟨hkey, hsymbol⟩ ⟨text, htext, branch, hbranch, -, hne⟩
    rcases List.mem_pair.mp htext with rfl | rfl
    · rw [Option.mem_def, hlast] at hbranch
      cases hbranch
      exact hne (by simpa using hsymbol)
    · rw [Option.mem_def] at hbranch
      rw [hbranch] at hkey
      exact hne (by simpa using hkey)
  · intro hfree
    -- whichever key answers, it has the message of the constant
    have hmessage : ∀ {text node}, text = constant.1.symbol ∨ text = constant.1.key →
        document.lastNode? text = some node → node.displayValue = constant.2.displayValue := by
      intro text node htext hnode
      rcases eq_or_isBranch_of_lastNode? hsymbols hidentifiers h htext hnode with rfl | ⟨-, hb⟩
      · rfl
      · by_contra hne
        exact hfree ⟨text, List.mem_pair.mpr htext, node, hnode, hb, hne⟩
    have hsymbol : last.displayValue = constant.2.displayValue := hmessage (Or.inl rfl) hlast
    refine ⟨?_, congrArg some hsymbol⟩
    cases hkey : document.lastNode? constant.1.key with
    | none => exact congrArg some hsymbol
    | some node => exact congrArg some (hmessage (Or.inr rfl) hkey)

include hsymbols hidentifiers in
/-- Where branches have constants, no constant is outdone. -/
theorem Document.not_outdone (hskip : skipBranches = false) {constant : Entry × Node}
    (h : constant ∈ document.constants skipBranches) : ¬ document.Outdone constant := by
  rintro ⟨text, htext, branch, hlast, -, hne⟩
  rcases eq_or_isBranch_of_lastNode? hsymbols hidentifiers h (List.mem_pair.mp htext) hlast
    with rfl | ⟨hs, -⟩
  · exact hne rfl
  · simp [hskip] at hs

end Checked

/-- **Every key of a document that passes the checks fetches its own message**, by its dotted key
and by its symbol, from a table of documents with distinct names. The checks are those of all keys,
branches included; the other documents are free. -/
theorem Table.lookup?_build_of_checked {documents : List Document}
    (hnames : (documents.map Document.name).Nodup) {document : Document}
    (hmem : document ∈ documents) (hcollisions : findCollisions (document.flatten false) = [])
    (hinvalid : invalidEntries (document.flatten false) = []) :
    ∀ path node, (path, node) ∈ document.keyPaths →
      (build documents).lookup? document.name path.dotted = some node.displayValue ∧
        (build documents).lookup? document.name path.symbol = some node.displayValue := by
  intro path node hpath
  have hsymbols := nodup_symbols_of_findCollisions_eq_nil hcollisions
  have hidentifiers := invalidEntries_eq_nil_iff.mp hinvalid
  -- with branches among the constants, every key is one
  have hconstant : (path.entry, node) ∈ document.constants false := by
    rw [Document.mem_constants_iff]
    exact ⟨Document.mem_resolved_of_mem_keyPaths hpath, by simp⟩
  have hfetches : (build documents).Fetches document.name (path.entry, node) := by
    rw [Document.fetches_iff_not_outdone hsymbols hidentifiers (lookup?_build hnames hmem)
      hconstant]
    exact Document.not_outdone hsymbols hidentifiers rfl hconstant
  exact hfetches

/-- A document whose keys fail the checks: a key with a dot, and two keys of one symbol. -/
def uncheckedMessages : Document :=
  ⟨"en", [("a", .branch [("b_c", .leaf (.string "one"))]),
    ("a_b", .branch [("c", .leaf (.string "two"))]), ("a.b.c", .leaf (.string "three"))]⟩

/-- A document whose keys pass the checks. -/
def checkedMessages : Document :=
  ⟨"de", [("a", .branch [("b", .branch [("c", .leaf (.string "eins"))])]),
    ("a_c", .leaf (.string "zwei"))]⟩

theorem Table.lookup?_build_checkedMessages :
    ([uncheckedMessages, checkedMessages].map Document.name).Nodup ∧
      findCollisions (checkedMessages.flatten false) = [] ∧
      invalidEntries (checkedMessages.flatten false) = [] ∧
      (build [uncheckedMessages, checkedMessages]).lookup? "de" "a.b.c" = some "eins" ∧
      (build [uncheckedMessages, checkedMessages]).lookup? "de" "a_b_c" = some "eins" := by
  have hnames : ([uncheckedMessages, checkedMessages].map Document.name).Nodup := by decide
  have hcollisions : findCollisions (checkedMessages.flatten false) = [] := by decide +kernel
  have hinvalid : invalidEntries (checkedMessages.flatten false) = [] := by decide +kernel
  refine ⟨hnames, hcollisions, hinvalid, ?_⟩
  apply lookup?_build_of_checked hnames (List.mem_cons_of_mem _ List.mem_cons_self) hcollisions
    hinvalid ["a", "b", "c"] (.leaf (.string "eins"))
  exact List.mem_cons_self

/-! ## Strict runs -/

section Strict

variable {fs : FileSystem} {root : Path} {settings : Settings} {made : Generation}
  {selection : Selection} {reference : Document}

theorem Generation.ComesFrom.nodup_names
    (h : made.ComesFrom fs root settings selection reference) :
    (selection.documents.map Document.name).Nodup :=
  Selection.nodup_names_of_selectDocuments h.selected

theorem Generation.ComesFrom.reference_mem
    (h : made.ComesFrom fs root settings selection reference) :
    reference ∈ selection.documents :=
  Selection.mem_documents_of_referenceDocument? h.isReference

theorem Generation.ComesFrom.nodup_symbols
    (h : made.ComesFrom fs root settings selection reference) (hstrict : settings.strict = true) :
    ((reference.flatten settings.skipBranchKeys).map Entry.symbol).Nodup := by
  obtain ⟨warnings, hcheck, -⟩ := h.checked
  rw [hstrict] at hcheck
  exact nodup_symbols_of_findCollisions_eq_nil (checkEntries_true_eq_ok hcheck).1

theorem Generation.ComesFrom.isIdentifier_symbol
    (h : made.ComesFrom fs root settings selection reference) (hstrict : settings.strict = true) :
    ∀ entry ∈ reference.flatten settings.skipBranchKeys,
      Text.isIdentifier entry.symbol = true := by
  obtain ⟨warnings, hcheck, -⟩ := h.checked
  rw [hstrict] at hcheck
  exact invalidEntries_eq_nil_iff.mp (checkEntries_true_eq_ok hcheck).2

/-- **A constant of a strict run fetches its own message exactly if no branch outdoes it.** No
branch does where branches have constants of their own; where they have none, nothing keeps the
symbol of a branch from being the symbol or the dotted key of a constant. -/
theorem fetches_iff_not_outdone_of_strict (hstrict : settings.strict = true)
    (h : generate fs root settings = .ok made) :
    ∃ selection reference, made.ComesFrom fs root settings selection reference ∧
      (settings.skipBranchKeys = false →
        ∀ constant ∈ reference.constants settings.skipBranchKeys,
          (Table.build selection.documents).Fetches made.reference constant) ∧
      ∀ constant ∈ reference.constants settings.skipBranchKeys,
        (Table.build selection.documents).Fetches made.reference constant ↔
          ¬ reference.Outdone constant := by
  obtain ⟨selection, reference, hfrom⟩ := exists_comesFrom h
  have hsymbols := hfrom.nodup_symbols hstrict
  have hidentifiers := hfrom.isIdentifier_symbol hstrict
  have hiff : ∀ constant ∈ reference.constants settings.skipBranchKeys,
      (Table.build selection.documents).Fetches made.reference constant ↔
        ¬ reference.Outdone constant := by
    intro constant hconstant
    rw [hfrom.name_eq]
    exact Document.fetches_iff_not_outdone hsymbols hidentifiers
      (Table.lookup?_build hfrom.nodup_names hfrom.reference_mem) hconstant
  refine ⟨selection, reference, hfrom, ?_, hiff⟩
  intro hskip constant hconstant
  exact (hiff constant hconstant).mpr
    (Document.not_outdone hsymbols hidentifiers hskip hconstant)

/-- **What a constant of a strict run fetches in any locale**, if branches have constants: the
message of the last key that has the dotted key of the constant as its symbol, or else of the last
key that has its symbol. This is the message at the path of the constant if no other key of the
document has one of these symbols, and there is none exactly if no key has. -/
theorem lookup?_eq_lastNode?_of_strict (hstrict : settings.strict = true)
    (hskip : settings.skipBranchKeys = false) (h : generate fs root settings = .ok made) :
    ∃ selection reference, made.ComesFrom fs root settings selection reference ∧
      ∀ path node, (path, node) ∈ reference.keyPaths → ∀ other ∈ selection.documents,
        (Table.build selection.documents).lookup? other.name path.dotted =
          ((other.lastNode? path.dotted).or (other.lastNode? path.symbol)).map
            Node.displayValue ∧
        (∀ there, (path, there) ∈ other.keyPaths →
          (∀ row ∈ other.keyPaths,
            row.1.symbol = path.symbol ∨ row.1.symbol = path.dotted → row = (path, there)) →
          (Table.build selection.documents).lookup? other.name path.dotted =
            some there.displayValue) ∧
        ((Table.build selection.documents).lookup? other.name path.dotted = none ↔
          ∀ row ∈ other.keyPaths,
            row.1.symbol ≠ path.symbol ∧ row.1.symbol ≠ path.dotted) := by
  obtain ⟨selection, reference, hfrom⟩ := exists_comesFrom h
  refine ⟨selection, reference, hfrom, ?_⟩
  intro path node hpath other hother
  have hconstant : (path.entry, node) ∈ reference.constants settings.skipBranchKeys :=
    Document.mem_constants_iff.mpr
      ⟨Document.mem_resolved_of_mem_keyPaths hpath, fun hs => by simp [hskip] at hs⟩
  have hdot : '.' ∉ path.symbol.toList :=
    Document.dot_not_mem_symbol (hfrom.isIdentifier_symbol hstrict) hconstant
  have hlookup : (Table.build selection.documents).lookup? other.name path.dotted =
      ((other.lastNode? path.dotted).or (other.lastNode? path.symbol)).map Node.displayValue := by
    rw [Table.lookup?_build hfrom.nodup_names hother]
    have hentry : (path.entry, node).1 = path.entry := rfl
    exact congrArg _ (Document.nodeFor?_key hentry hdot)
  refine ⟨hlookup, ?_, ?_⟩
  · -- both look-ups can only meet the key at the path
    intro there hthere honly
    have hthat : ∀ {text found}, text = path.symbol ∨ text = path.dotted →
        other.lastNode? text = some found → found = there := by
      intro text found htext hfound
      obtain ⟨place, hmem, hsymbol⟩ := Document.exists_path_of_lastNode?_eq_some hfound
      exact congrArg Prod.snd (honly (place, found) hmem (by rwa [← hsymbol] at htext))
    obtain ⟨last, hlast⟩ : ∃ last, other.lastNode? path.symbol = some last :=
      Option.ne_none_iff_exists'.mp fun hnone =>
        Document.lastNode?_eq_none_iff_keyPaths.mp hnone _ hthere rfl
    rw [hlookup]
    cases hdotted : other.lastNode? path.dotted with
    | none => simp [hlast, hthat (Or.inl rfl) hlast]
    | some found => simp [hthat (Or.inr rfl) hdotted]
  · rw [hlookup, Option.map_eq_none_iff, Option.or_eq_none_iff,
      Document.lastNode?_eq_none_iff_keyPaths, Document.lastNode?_eq_none_iff_keyPaths]
    constructor
    · rintro ⟨hdotted, hsymbol⟩ row hrow
      exact ⟨hsymbol row hrow, hdotted row hrow⟩
    · intro hnone
      exact ⟨fun row hrow => (hnone row hrow).2, fun row hrow => (hnone row hrow).1⟩

end Strict

/-! ## Symbols that are shared -/

/-- A project whose folder of messages holds some files. -/
def projectOf (files : List (String × String)) : FileSystem where
  root := .directory [("messages", .directory (files.map fun (name, content) =>
    (name, .file content.toUTF8)))]
  workingDirectory := []

/-- A leaf `c` below `a_b`, and then a branch `b_c` below `a` with the same symbol. -/
def sharedSymbolProject : FileSystem :=
  projectOf [("en.json",
    "\x7b\"a_b\":\x7b\"c\":\"Save\"\x7d,\"a\":\x7b\"b_c\":\x7b\"x\":\"Quit\"\x7d\x7d\x7d")]

/-- Strict settings under which branches have no constants. -/
def leavesOnly : Settings :=
  { sourceFile := some "en.json", strict := true, skipBranchKeys := true }

theorem selectDocuments_sharedSymbolProject :
    (match selectDocuments sharedSymbolProject ⟨""⟩ leavesOnly with
    | .ok selection => decide (∃ reference ∈ selection.referenceDocument?,
        ∃ constant ∈ reference.constants true, reference.Outdone constant)
    | .error _ => false) = true := by
  decide +kernel

/-- A strict run lets a constant pass that fetches the message of a branch. -/
theorem exists_outdone_constant_of_strict :
    leavesOnly.strict = true ∧
      ∃ made, generate sharedSymbolProject ⟨""⟩ leavesOnly = .ok made ∧
        ∃ selection reference,
          made.ComesFrom sharedSymbolProject ⟨""⟩ leavesOnly selection reference ∧
            ∃ constant ∈ reference.constants true,
              ¬ (Table.build selection.documents).Fetches made.reference constant := by
  have hok : (generate sharedSymbolProject ⟨""⟩ leavesOnly).isOk = true := by decide +kernel
  cases hmade : generate sharedSymbolProject ⟨""⟩ leavesOnly with
  | error e => simp [hmade, Except.isOk, Except.toBool] at hok
  | ok made =>
    obtain ⟨selection, reference, hfrom, -, hiff⟩ := fetches_iff_not_outdone_of_strict rfl hmade
    have hcheck := selectDocuments_sharedSymbolProject
    rw [hfrom.selected] at hcheck
    obtain ⟨_, href, constant, hmem, houtdone⟩ := of_decide_eq_true hcheck
    obtain rfl := Option.some.inj (hfrom.isReference.symm.trans href)
    exact ⟨rfl, made, rfl, selection, reference, hfrom, constant, hmem,
      fun hfetches => (hiff constant hmem).mp hfetches houtdone⟩

/-- A reference with a key `b` below `a`, and another document with a key `a_b`. -/
def flatLocaleProject : FileSystem :=
  projectOf [("de.json", "\x7b\"a_b\":\"flach\"\x7d"),
    ("en.json", "\x7b\"a\":\x7b\"b\":\"nested\"\x7d\x7d")]

/-- Strict settings with a reference. -/
def strictEnglish : Settings :=
  { strict := true, referenceLocale := some "en" }

theorem selectDocuments_flatLocaleProject :
    selectDocuments flatLocaleProject ⟨""⟩ strictEnglish =
      Selection.addAll 1 0 {}
        (loadAll flatLocaleProject (["de.json", "en.json"].map fun name =>
          Path.join ⟨"./messages"⟩ ⟨name⟩) strictEnglish.maxDepth) := by
  apply Selection.selectDocuments_of_sorted
  · decide +kernel
  · rfl
  · decide +kernel
  · decide +kernel
  · decide +kernel
  · simp
  · decide +kernel

theorem exists_generation_of_flatLocaleProject :
    ∃ made, generate flatLocaleProject ⟨""⟩ strictEnglish = .ok made := by
  have hok : (generate flatLocaleProject ⟨""⟩ strictEnglish).isOk = true := by
    rw [generate, selectDocuments_flatLocaleProject]
    decide +kernel
  cases hmade : generate flatLocaleProject ⟨""⟩ strictEnglish with
  | error e => simp [hmade, Except.isOk, Except.toBool] at hok
  | ok made => exact ⟨made, rfl⟩

/-- The look-ups of a strict run with two locales. -/
theorem lookup?_flatLocaleProject :
    strictEnglish.strict = true ∧ strictEnglish.skipBranchKeys = false ∧
      ∃ made, generate flatLocaleProject ⟨""⟩ strictEnglish = .ok made ∧
        ∃ selection reference,
          made.ComesFrom flatLocaleProject ⟨""⟩ strictEnglish selection reference ∧
            ∀ path node, (path, node) ∈ reference.keyPaths → ∀ other ∈ selection.documents,
              (Table.build selection.documents).lookup? other.name path.dotted =
                ((other.lastNode? path.dotted).or (other.lastNode? path.symbol)).map
                  Node.displayValue := by
  obtain ⟨made, hmade⟩ := exists_generation_of_flatLocaleProject
  obtain ⟨selection, reference, hfrom, hlookup⟩ := lookup?_eq_lastNode?_of_strict rfl rfl hmade
  exact ⟨rfl, rfl, made, hmade, selection, reference, hfrom,
    fun path node hpath other hother => (hlookup path node hpath other hother).1⟩

/-- A strict run lets a constant fetch, in another locale, the message of a key that stands at
another path than the key of the constant. -/
theorem exists_other_key_fetched_of_strict :
    ∃ made selection reference,
      generate flatLocaleProject ⟨""⟩ strictEnglish = .ok made ∧
        made.ComesFrom flatLocaleProject ⟨""⟩ strictEnglish selection reference ∧
          ∃ constant ∈ reference.keyPaths, ∃ other ∈ selection.documents,
            other.name ≠ reference.name ∧ (∀ row ∈ other.keyPaths, row.1 ≠ constant.1) ∧
              (Table.build selection.documents).lookup? other.name constant.1.dotted =
                some "flach" := by
  have hcheck : (match selectDocuments flatLocaleProject ⟨""⟩ strictEnglish with
      | .ok selection => decide (∃ reference ∈ selection.referenceDocument?,
          ∃ constant ∈ reference.keyPaths, ∃ other ∈ selection.documents,
            other.name ≠ reference.name ∧ (∀ row ∈ other.keyPaths, row.1 ≠ constant.1) ∧
              (Table.build selection.documents).lookup? other.name constant.1.dotted =
                some "flach")
      | .error _ => false) = true := by
    rw [selectDocuments_flatLocaleProject]
    decide +kernel
  obtain ⟨made, hmade⟩ := exists_generation_of_flatLocaleProject
  obtain ⟨selection, reference, hfrom⟩ := exists_comesFrom hmade
  rw [hfrom.selected] at hcheck
  obtain ⟨_, href, hfound⟩ := of_decide_eq_true hcheck
  obtain rfl := Option.some.inj (hfrom.isReference.symm.trans href)
  exact ⟨made, selection, reference, hmade, hfrom, hfound⟩

end MessageCatalog
