import Mathlib.Data.List.Nodup
import Mathlib.Data.List.Sort
import MessageCatalog.Entry.Check
import MessageCatalog.Proofs.Rows

/-!
# What the checks of entries find

## Main definitions

* `keysOf` — the keys of the entries of a symbol.
* `collidingSymbols` — the symbols that several entries have.
* `ReportsCollisions` — what a report of collisions has to say about some entries.

## Main results

* `get?_keysBySymbol`: the keys under a symbol are those of its entries, in order
* `findCollisions_eq`: there is one collision for each symbol that several entries have
* `nodup_symbols_of_findCollisions_eq_nil`: without collisions every symbol is there once
* `findCollisions_eq_iff_reports`: what is found is the one report of collisions about the entries
-/

namespace MessageCatalog

/-- The keys of the entries of a symbol, in order. -/
def keysOf (entries : List Entry) (symbol : String) : List String :=
  (entries.filter fun entry => entry.symbol = symbol).map Entry.key

/-- The symbols that several entries have, in the order of their first entries. -/
def collidingSymbols (entries : List Entry) : List String :=
  (entries.map Entry.symbol).eraseDups.filter fun symbol =>
    1 < (entries.map Entry.symbol).count symbol

theorem length_keysOf (entries : List Entry) (symbol : String) :
    (keysOf entries symbol).length = (entries.map Entry.symbol).count symbol := by
  rw [keysOf, List.length_map, ← List.countP_eq_length_filter, List.count, List.countP_map]
  exact List.countP_congr fun entry _ => by simp

theorem foldl_append_key (entries : List Entry) :
    entries.foldl (fun keys entry => keys ++ [entry.key]) [] = entries.map Entry.key := by
  rw [List.foldl_append_eq_append, List.nil_append, ← List.flatMap_def]
  exact List.map_eq_flatMap.symm

/-- The keys that are kept under a symbol are those of its entries, in order. -/
theorem get?_keysBySymbol (entries : List Entry) (symbol : String) :
    Rows.get? symbol (keysBySymbol entries) =
      if keysOf entries symbol = [] then none else some (keysOf entries symbol) := by
  have h := Rows.get?_foldl_update Entry.symbol
    (fun entry (keys : Option (List String)) => keys.getD [] ++ [entry.key]) symbol entries []
  have hmade := Rows.foldl_getD (fun (keys : List String) (entry : Entry) => keys ++ [entry.key]) []
    (entries.filter fun entry => entry.symbol = symbol)
  rw [foldl_append_key] at hmade
  rw [keysBySymbol, h, Rows.get?_nil, hmade, keysOf]
  simp only [List.map_eq_nil_iff]

/-- Under every symbol that an entry has stand its keys, and symbols stand in the order of their
first entries. -/
theorem keysBySymbol_eq (entries : List Entry) :
    keysBySymbol entries =
      (entries.map Entry.symbol).eraseDups.map fun symbol => (symbol, keysOf entries symbol) := by
  have hnames : Rows.names (keysBySymbol entries) = (entries.map Entry.symbol).eraseDups :=
    Rows.names_foldl_update Entry.symbol (fun entry keys => keys.getD [] ++ [entry.key]) entries
  have hnodup : (Rows.names (keysBySymbol entries)).Nodup :=
    Rows.nodup_names_foldl_update Entry.symbol (fun entry keys => keys.getD [] ++ [entry.key])
      entries
  rw [← hnames, Rows.names, List.map_map]
  refine (List.map_id _).symm.trans (List.map_congr_left ?_)
  rintro ⟨symbol, keys⟩ hrow
  -- names are distinct, so the row is the one that a look-up finds
  have hfound := Rows.get?_of_mem hnodup hrow
  rw [get?_keysBySymbol] at hfound
  split at hfound
  · cases hfound
  · exact congrArg (Prod.mk symbol) (Option.some.inj hfound).symm

/-- **There is one collision for each symbol that several entries have**, with the keys of all these
entries. -/
theorem findCollisions_eq (entries : List Entry) :
    findCollisions entries =
      (collidingSymbols entries).map fun symbol => ⟨symbol, keysOf entries symbol⟩ := by
  rw [findCollisions, keysBySymbol_eq, List.filter_map, List.map_map, collidingSymbols]
  simp only [Function.comp_def, length_keysOf]

theorem length_keysOf_le_one_of_findCollisions_eq_nil {entries : List Entry}
    (h : findCollisions entries = []) (symbol : String) :
    (keysOf entries symbol).length ≤ 1 := by
  by_cases hnil : keysOf entries symbol = []
  · simp [hnil]
  -- two keys under one symbol would be a collision
  have hrow : (symbol, keysOf entries symbol) ∈ keysBySymbol entries :=
    Rows.mem_of_get?_eq_some (by rw [get?_keysBySymbol, if_neg hnil])
  rw [findCollisions, List.map_eq_nil_iff, List.filter_eq_nil_iff] at h
  simpa using h _ hrow

/-- **Without collisions every symbol is there once.** -/
theorem nodup_symbols_of_findCollisions_eq_nil {entries : List Entry}
    (h : findCollisions entries = []) : (entries.map Entry.symbol).Nodup := by
  rw [List.nodup_iff_count_le_one]
  intro symbol
  rw [← length_keysOf]
  exact length_keysOf_le_one_of_findCollisions_eq_nil h symbol

/-- There are no collisions if and only if all symbols are distinct. -/
theorem findCollisions_eq_nil_iff {entries : List Entry} :
    findCollisions entries = [] ↔ (entries.map Entry.symbol).Nodup := by
  refine ⟨nodup_symbols_of_findCollisions_eq_nil, fun hnodup => ?_⟩
  rw [findCollisions_eq, List.map_eq_nil_iff, collidingSymbols, List.filter_eq_nil_iff]
  intro symbol _ hcount
  exact absurd (List.nodup_iff_count_le_one.mp hnodup symbol)
    (Nat.not_le_of_lt (of_decide_eq_true hcount))

theorem invalidEntries_eq_nil_iff {entries : List Entry} :
    invalidEntries entries = [] ↔ ∀ entry ∈ entries, Text.isIdentifier entry.symbol = true := by
  simp [invalidEntries, List.filter_eq_nil_iff]

/-! ## Reports of collisions -/

/-- One symbol has its first entry before another symbol has its own. -/
def FirstBefore (entries : List Entry) (one other : String) : Prop :=
  (entries.map Entry.symbol).idxOf one < (entries.map Entry.symbol).idxOf other

instance (entries : List Entry) : Std.Irrefl (FirstBefore entries) :=
  ⟨fun _ => Nat.lt_irrefl _⟩

instance (entries : List Entry) : Std.Antisymm (FirstBefore entries) :=
  ⟨fun _ _ h h' => absurd h' (Nat.lt_asymm h)⟩

/-- Some collisions are what is to be said about some entries. -/
structure ReportsCollisions (entries : List Entry) (found : List Collision) : Prop where
  /-- The symbols are those that two entries or more have. -/
  mem_symbols_iff : ∀ symbol, symbol ∈ found.map Collision.symbol ↔
    2 ≤ (entries.map Entry.symbol).count symbol
  /-- Each symbol is there once, in the order of their first entries. -/
  pairwise_symbols : (found.map Collision.symbol).Pairwise (FirstBefore entries)
  /-- With each symbol stand the keys of all its entries, in order. -/
  keys_eq : ∀ collision ∈ found, collision.keys =
    (entries.filter fun entry => entry.symbol = collision.symbol).map Entry.key

theorem symbols_findCollisions (entries : List Entry) :
    (findCollisions entries).map Collision.symbol = collidingSymbols entries := by
  rw [findCollisions_eq, List.map_map]
  exact List.map_id _

theorem mem_collidingSymbols_iff {entries : List Entry} {symbol : String} :
    symbol ∈ collidingSymbols entries ↔ 2 ≤ (entries.map Entry.symbol).count symbol := by
  rw [collidingSymbols, List.mem_filter, List.mem_eraseDups, decide_eq_true_eq]
  refine and_iff_right_of_imp fun hcount => ?_
  exact List.count_pos_iff.mp (Nat.lt_trans Nat.zero_lt_one hcount)

theorem reportsCollisions_findCollisions (entries : List Entry) :
    ReportsCollisions entries (findCollisions entries) where
  mem_symbols_iff symbol := by rw [symbols_findCollisions, mem_collidingSymbols_iff]
  pairwise_symbols := by
    rw [symbols_findCollisions, collidingSymbols]
    exact (Rows.pairwise_idxOf_eraseDups _).filter _
  keys_eq collision hcollision := by
    rw [findCollisions_eq] at hcollision
    obtain ⟨symbol, -, rfl⟩ := List.mem_map.mp hcollision
    rfl

/-- There is only one report of collisions about some entries. -/
theorem ReportsCollisions.eq {entries : List Entry} {found other : List Collision}
    (hfound : ReportsCollisions entries found) (hother : ReportsCollisions entries other) :
    found = other := by
  have hsymbols : found.map Collision.symbol = other.map Collision.symbol :=
    hfound.pairwise_symbols.eq_of_mem_iff hother.pairwise_symbols fun symbol =>
      (hfound.mem_symbols_iff symbol).trans (hother.mem_symbols_iff symbol).symm
  -- a collision is fixed by its symbol
  have hmade : ∀ report : List Collision, ReportsCollisions entries report →
      (report.map Collision.symbol).map (fun symbol => ⟨symbol, keysOf entries symbol⟩) =
        report := by
    intro report hreport
    rw [List.map_map]
    refine (List.map_congr_left fun collision hcollision => ?_).trans (List.map_id report)
    exact congrArg (Collision.mk collision.symbol) (hreport.keys_eq collision hcollision).symm
  rw [← hmade found hfound, ← hmade other hother, hsymbols]

/-- **What is found is the one report of collisions about the entries**: the symbols that two entries
or more have, each once and in the order of their first entries, with the keys of all entries of the
symbol. So nothing is found if and only if all symbols are distinct. -/
theorem findCollisions_eq_iff_reports (entries : List Entry) :
    (∀ found, findCollisions entries = found ↔ ReportsCollisions entries found) ∧
      ((findCollisions entries).map Collision.symbol).Nodup ∧
      (findCollisions entries = [] ↔ (entries.map Entry.symbol).Nodup) := by
  have hreports := reportsCollisions_findCollisions entries
  refine ⟨fun found => ⟨?_, hreports.eq⟩, hreports.pairwise_symbols.nodup,
    findCollisions_eq_nil_iff⟩
  rintro rfl
  exact hreports

/-- Entries of one symbol need not stand side by side, and may have one key. -/
example : findCollisions [⟨"b", "b"⟩, ⟨"a_c", "a.c"⟩, ⟨"x", "x"⟩, ⟨"a_c", "a_c"⟩, ⟨"b", "b"⟩] =
    [⟨"b", ["b", "b"]⟩, ⟨"a_c", ["a.c", "a_c"]⟩] := by
  decide

end MessageCatalog
