/-!
# Counted nouns
-/

namespace MessageCatalog.Text

/-- A count with its noun: the singular goes with one, the plural with every other count. -/
def counted (count : Nat) (singular plural : String) : String :=
  toString count ++ " " ++ if count = 1 then singular else plural

end MessageCatalog.Text
