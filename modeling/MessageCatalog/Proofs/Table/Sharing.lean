import MessageCatalog.Proofs.Rows
import MessageCatalog.Table

/-!
# Documents that share a locale

The names of documents need not be distinct: all documents of one name put their keys into one
locale, one document after the other. The table that comes of this is described here by the flat
list of the keys that a locale is given.

## Main definitions

* `Table.keysOfLocale` — the keys of all documents of a locale, document by document.
* `Table.messageFor?` — the answer to a look-up, read off these keys.

## Main results

* `Table.messages?_build_eq`: the messages of a locale come from its keys alone
* `Table.build_eq_first_occurrences`: look-ups in a built table, and the order of its rows
-/

namespace MessageCatalog

namespace Table

/-- The keys of all documents of a locale with their nodes, document by document. -/
def keysOfLocale (documents : List Document) (locale : String) : List (Entry × Node) :=
  (documents.filter fun document => document.name = locale).flatMap Document.resolved

/-- The message of the last of some keys that has a symbol. -/
def lastMessage? (keys : List (Entry × Node)) (symbol : String) : Option String :=
  ((keys.filter fun key => key.1.symbol = symbol).getLast?).map fun key => key.2.displayValue

/-- The answer to a look-up: the message of the last key of the locale that has the symbol asked
for, or else of the last one with the symbol that a dotted key is written as. -/
def messageFor? (documents : List Document) (locale key : String) : Option String :=
  if locale ∈ documents.map Document.name then
    (lastMessage? (keysOfLocale documents locale) key).or
      (if '.' ∈ key.toList then lastMessage? (keysOfLocale documents locale) (underscored key)
        else none)
  else none

/-- The messages that some keys leave, one set after the other. -/
def messagesOf (keys : List (Entry × Node)) : Messages :=
  keys.foldl (fun messages (entry, node) => Rows.set entry.symbol node.displayValue messages) []

theorem get?_build (documents : List Document) (name : String) :
    Rows.get? name (build documents) =
      (documents.filter fun document => document.name = name).foldl
        (fun messages document => some (Messages.addDocument (messages.getD []) document)) none :=
  Rows.get?_foldl_update Document.name
    (fun document messages => Messages.addDocument (messages.getD []) document) name documents []

theorem foldl_addDocument (documents : List Document) :
    documents.foldl Messages.addDocument [] = messagesOf (documents.flatMap Document.resolved) := by
  rw [messagesOf, List.foldl_flatMap]
  rfl

theorem get?_messagesOf (keys : List (Entry × Node)) (symbol : String) :
    Rows.get? symbol (messagesOf keys) = lastMessage? keys symbol := by
  have h := Rows.get?_foldl_set (fun key : Entry × Node => key.1.symbol)
    (fun key => key.2.displayValue) symbol keys []
  rw [Rows.get?_nil, Option.or_none] at h
  exact h

theorem names_messagesOf (keys : List (Entry × Node)) :
    Rows.names (messagesOf keys) = (keys.map fun key => key.1.symbol).eraseDups :=
  Rows.names_foldl_update (fun key : Entry × Node => key.1.symbol)
    (fun key _ => key.2.displayValue) keys

theorem nodup_names_messagesOf (keys : List (Entry × Node)) :
    (Rows.names (messagesOf keys)).Nodup :=
  Rows.nodup_names_foldl_update (fun key : Entry × Node => key.1.symbol)
    (fun key _ => key.2.displayValue) keys

theorem lookup?_messagesOf (keys : List (Entry × Node)) (key : String) :
    (messagesOf keys).lookup? key =
      (lastMessage? keys key).or
        (if '.' ∈ key.toList then lastMessage? keys (underscored key) else none) := by
  simp only [Messages.lookup?, get?_messagesOf, List.contains_iff_mem]
  cases lastMessage? keys key with
  | some message => rfl
  | none => rfl

/-- **The messages of a locale come from its keys alone**; a locale is there if a document has its
name, even if it has no keys. -/
theorem messages?_build_eq (documents : List Document) (locale : String) :
    (build documents).messages? locale =
      if locale ∈ documents.map Document.name then
        some (messagesOf (keysOfLocale documents locale))
      else none := by
  have hnil : (documents.filter fun document => document.name = locale) = [] ↔
      locale ∉ documents.map Document.name := by
    simp [List.filter_eq_nil_iff]
  rw [messages?, get?_build, Rows.foldl_getD Messages.addDocument, foldl_addDocument]
  by_cases hlocale : locale ∈ documents.map Document.name
  · rw [if_pos hlocale, if_neg fun h => hnil.mp h hlocale]
    rfl
  · rw [if_neg hlocale, if_pos (hnil.mpr hlocale)]

theorem lookup?_build_eq (documents : List Document) (locale key : String) :
    (build documents).lookup? locale key = messageFor? documents locale key := by
  rw [lookup?, messages?_build_eq, messageFor?]
  by_cases hlocale : locale ∈ documents.map Document.name
  · rw [if_pos hlocale, if_pos hlocale]
    exact lookup?_messagesOf _ key
  · rw [if_neg hlocale, if_neg hlocale]

theorem localeNames_build (documents : List Document) :
    (build documents).localeNames = (documents.map Document.name).eraseDups :=
  Rows.names_foldl_update Document.name
    (fun document messages => Messages.addDocument (messages.getD []) document) documents

theorem nodup_localeNames_build (documents : List Document) :
    (build documents).localeNames.Nodup :=
  Rows.nodup_names_foldl_update Document.name
    (fun document messages => Messages.addDocument (messages.getD []) document) documents

theorem messages_eq_of_mem_build {documents : List Document} {row : String × Messages}
    (hrow : row ∈ build documents) : row.2 = messagesOf (keysOfLocale documents row.1) := by
  have hfound : (build documents).messages? row.1 = some row.2 :=
    Rows.get?_of_mem (nodup_localeNames_build documents) hrow
  rw [messages?_build_eq] at hfound
  split at hfound
  · exact (Option.some.inj hfound).symm
  · cases hfound

/-- **Look-ups in a built table and the order of its rows**, whatever names the documents have. A
look-up answers with the last key of the locale that has the symbol; locales stand in the order of
their first documents, and the symbols of a locale in the order of their first keys, each once. -/
theorem build_eq_first_occurrences (documents : List Document) :
    (∀ locale key, (build documents).lookup? locale key = messageFor? documents locale key) ∧
      (build documents).localeNames = (documents.map Document.name).eraseDups ∧
      (build documents).localeNames.Nodup ∧
      ∀ row ∈ build documents,
        Rows.names row.2 =
            ((keysOfLocale documents row.1).map fun key => key.1.symbol).eraseDups ∧
          (Rows.names row.2).Nodup := by
  refine ⟨lookup?_build_eq documents, localeNames_build documents,
    nodup_localeNames_build documents, ?_⟩
  intro row hrow
  rw [messages_eq_of_mem_build hrow]
  exact ⟨names_messagesOf _, nodup_names_messagesOf _⟩

/-- Two documents of one locale, of which the second gives a symbol of the first a new message, and
a document of another locale between them. -/
def sharedLocale : List Document :=
  [⟨"en", [("a", .branch [("b", .leaf (.string "nested"))]), ("z", .leaf (.string "last"))]⟩,
    ⟨"de", []⟩, ⟨"en", [("c", .leaf .null), ("a_b", .leaf (.string "flat"))]⟩]

theorem build_sharedLocale :
    ("en", [("a_b", "flat"), ("a", "\x7b\"b\":\"nested\"\x7d"), ("z", "last"), ("c", "null")]) ∈
        build sharedLocale ∧
      (build sharedLocale).localeNames = ["en", "de"] ∧
      (build sharedLocale).lookup? "en" "a.b" = some "flat" ∧
      Rows.names
          [("a_b", "flat"), ("a", "\x7b\"b\":\"nested\"\x7d"), ("z", "last"), ("c", "null")] =
        ((keysOfLocale sharedLocale "en").map fun key => key.1.symbol).eraseDups := by
  obtain ⟨hlookup, hnames, -, hrows⟩ := build_eq_first_occurrences sharedLocale
  have hrow : ("en", [("a_b", "flat"), ("a", "\x7b\"b\":\"nested\"\x7d"), ("z", "last"),
      ("c", "null")]) ∈ build sharedLocale := by
    decide +kernel
  refine ⟨hrow, ?_, ?_, (hrows _ hrow).1⟩
  · rw [hnames]
    decide +kernel
  · rw [hlookup]
    decide +kernel

end Table

end MessageCatalog
