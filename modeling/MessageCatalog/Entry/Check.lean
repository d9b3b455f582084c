import MessageCatalog.Entry
import MessageCatalog.Text.Identifier

/-!
# Entries that cannot become constants

Constants need names of their own that the generated language accepts.

## Main definitions

* `Collision` — a symbol with the keys of all entries that have it.
* `findCollisions` — the symbols that several entries have.
* `invalidEntries` — the entries whose symbol is no identifier.
-/

namespace MessageCatalog

/-- A symbol with the dotted keys of all entries that have it. -/
structure Collision where
  symbol : String
  keys : List String
  deriving DecidableEq, Repr

/-- The dotted keys of some entries under their symbols. -/
def keysBySymbol (entries : List Entry) : Rows (List String) :=
  entries.foldl (fun rows entry =>
    Rows.update entry.symbol (fun keys => keys.getD [] ++ [entry.key]) rows) []

/-- The symbols that more than one entry has, in the order of their first entries. -/
def findCollisions (entries : List Entry) : List Collision :=
  ((keysBySymbol entries).filter fun (_, keys) => 1 < keys.length).map fun (symbol, keys) =>
    ⟨symbol, keys⟩

/-- The entries whose symbol is no identifier. -/
def invalidEntries (entries : List Entry) : List Entry :=
  entries.filter fun entry => !Text.isIdentifier entry.symbol

end MessageCatalog
