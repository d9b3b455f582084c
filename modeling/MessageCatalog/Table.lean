import MessageCatalog.Entry

/-!
# Message tables

A table holds the messages of every locale under their symbols. It is read from the top: of several
rows with one name, the first counts.

## Main definitions

* `Table.build` — the table of some documents.
* `Table.ofRows` — the table of some rows that may repeat names.
* `Table.localeNames`, `Table.messages?` — its locales and the messages of one of them.
* `Table.lookup?` — the message of a symbol or of a dotted key.
-/

namespace MessageCatalog

/-- The messages of one locale under their symbols. -/
abbrev Messages := Rows String

/-- The messages of every locale. -/
abbrev Table := Rows Messages

namespace Messages

/-- Adds every key of a document, branches included; a symbol that is there takes the later
message. -/
def addDocument (messages : Messages) (document : Document) : Messages :=
  document.resolved.foldl (fun messages (entry, node) =>
    Rows.set entry.symbol node.displayValue messages) messages

/-- The message of a symbol, or else of the symbol that a dotted key is written as. -/
def lookup? (messages : Messages) (key : String) : Option String :=
  match Rows.get? key messages with
  | some value => some value
  | none => if key.toList.contains '.' then Rows.get? (underscored key) messages else none

end Messages

namespace Table

/-- The table of some documents; those of one name share their locale. -/
def build (documents : List Document) : Table :=
  documents.foldl (fun table document =>
    Rows.update document.name (fun messages => (messages.getD []).addDocument document) table) []

/-- The table of some rows in which names may be repeated: a locale takes the messages that were
given to it last, and so does a symbol. -/
def ofRows (rows : Table) : Table :=
  rows.foldl (fun table (name, messages) =>
    Rows.set name (messages.foldl (fun kept (symbol, value) => Rows.set symbol value kept) [])
      table) []

/-- The names of the locales. -/
def localeNames (table : Table) : List String :=
  Rows.names table

/-- The messages of a locale. -/
def messages? (table : Table) (locale : String) : Option Messages :=
  Rows.get? locale table

/-- The message of a symbol or dotted key in a locale. -/
def lookup? (table : Table) (locale key : String) : Option String :=
  match table.messages? locale with
  | some messages => messages.lookup? key
  | none => none

end Table

end MessageCatalog
