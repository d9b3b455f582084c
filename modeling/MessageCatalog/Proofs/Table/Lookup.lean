import MessageCatalog.Proofs.Table.Sharing

/-!
# Looking messages up in a document of its own

Where the names of documents are distinct, a locale has the keys of one document. A look-up is then
answered by a key of that document: the last one with the symbol that is asked for, or else the last
one with the symbol that a dotted key is written as.

## Main definitions

* `Document.lastNode?` — the node of the last key of a document that has a symbol.
* `Document.nodeFor?` — the node that answers for a symbol or a dotted key.

## Main results

* `Table.keysOfLocale_of_nodup`: the keys of a locale are those of one document
* `Table.lookup?_build`: a look-up in a table of documents with distinct names
-/

namespace MessageCatalog

namespace Document

/-- The node of the last key of a document that has a symbol, in the order of the traversal. -/
def lastNode? (document : Document) (symbol : String) : Option Node :=
  ((document.resolved.filter fun row => row.1.symbol = symbol).getLast?).map Prod.snd

/-- The node that answers for a symbol, or else for the symbol that a dotted key is written as. -/
def nodeFor? (document : Document) (key : String) : Option Node :=
  (document.lastNode? key).or
    (if '.' ∈ key.toList then document.lastNode? (underscored key) else none)

theorem exists_row_of_lastNode?_eq_some {document : Document} {symbol : String} {node : Node}
    (h : document.lastNode? symbol = some node) :
    ∃ entry, (entry, node) ∈ document.resolved ∧ entry.symbol = symbol := by
  obtain ⟨⟨entry, last⟩, hlast, rfl⟩ := Option.map_eq_some_iff.mp h
  have hmem := List.mem_of_getLast? hlast
  rw [List.mem_filter] at hmem
  exact ⟨entry, hmem.1, by simpa using hmem.2⟩

theorem lastNode?_eq_none_iff {document : Document} {symbol : String} :
    document.lastNode? symbol = none ↔ ∀ row ∈ document.resolved, row.1.symbol ≠ symbol := by
  rw [lastNode?, Option.map_eq_none_iff, List.getLast?_eq_none_iff, List.filter_eq_nil_iff]
  simp

end Document

/-- The last of the keys of a document that has a symbol gives the message. -/
theorem Document.lastMessage?_resolved (document : Document) (symbol : String) :
    Table.lastMessage? document.resolved symbol =
      (document.lastNode? symbol).map Node.displayValue := by
  rw [Table.lastMessage?, lastNode?, Option.map_map]
  rfl

namespace Table

theorem keysOfLocale_of_nodup {documents : List Document}
    (hnames : (documents.map Document.name).Nodup) {document : Document}
    (hmem : document ∈ documents) : keysOfLocale documents document.name = document.resolved := by
  -- no other document of that name adds to the keys
  have honly : (documents.filter fun other => other.name = document.name) = [document] := by
    obtain ⟨before, after, rfl⟩ := List.append_of_mem hmem
    simp only [List.map_append, List.map_cons, List.nodup_append, List.nodup_cons,
      List.mem_map] at hnames
    obtain ⟨-, ⟨hafter, -⟩, hbefore⟩ := hnames
    rw [List.filter_append, List.filter_cons_of_pos (by simp)]
    rw [List.filter_eq_nil_iff.mpr, List.filter_eq_nil_iff.mpr]
    · rfl
    · intro other hother hname
      exact hafter ⟨other, hother, by simpa using hname⟩
    · intro other hother hname
      exact hbefore other.name ⟨other, hother, rfl⟩ document.name (by simp) (by simpa using hname)
  rw [keysOfLocale, honly, List.flatMap_singleton]

/-- The messages of a locale are those of the document of that name. -/
theorem messages?_build_eq_some_iff {documents : List Document}
    (hnames : (documents.map Document.name).Nodup) {locale : String} {messages : Messages} :
    (build documents).messages? locale = some messages ↔
      ∃ document ∈ documents, document.name = locale ∧
        messagesOf document.resolved = messages := by
  rw [messages?_build_eq]
  constructor
  · intro h
    split at h
    · next hlocale =>
      obtain ⟨document, hmem, rfl⟩ := List.mem_map.mp hlocale
      rw [keysOfLocale_of_nodup hnames hmem] at h
      exact ⟨document, hmem, rfl, Option.some.inj h⟩
    · cases h
  · rintro ⟨document, hmem, rfl, rfl⟩
    rw [if_pos (List.mem_map_of_mem hmem), keysOfLocale_of_nodup hnames hmem]

/-- **A look-up in a table of documents with distinct names** asks the document of that name. -/
theorem lookup?_build {documents : List Document} (hnames : (documents.map Document.name).Nodup)
    {document : Document} (hmem : document ∈ documents) (key : String) :
    (build documents).lookup? document.name key =
      (document.nodeFor? key).map Node.displayValue := by
  rw [lookup?_build_eq, messageFor?, if_pos (List.mem_map_of_mem hmem),
    keysOfLocale_of_nodup hnames hmem, Document.nodeFor?, Option.map_or]
  simp only [Document.lastMessage?_resolved]
  -- only a key with dots is asked for a second time
  by_cases hdot : '.' ∈ key.toList
  · rw [if_pos hdot, if_pos hdot]
  · rw [if_neg hdot, if_neg hdot, Option.map_none]

end Table

end MessageCatalog
