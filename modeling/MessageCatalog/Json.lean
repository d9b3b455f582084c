import MessageCatalog.Number.Binary64
import MessageCatalog.Rows

/-!
# JSON values

## Main definitions

* `Json.Number` — whole numbers in the ranges of 64-bit words, and floating-point numbers.
* `Json` — a value; the members of an object are kept in order.
* `Json.membersOf` — the members of an object in which names may be repeated.
* `Json.WellFormed` — no object of the value repeats a name.
-/

namespace MessageCatalog

namespace Json

/-- A number: a whole number below `2 ^ 64`, the negative of a whole number from one to `2 ^ 63`, or
a floating-point number. -/
inductive Number where
  | natural (n : Nat)
  | negative (n : Nat)
  | real (x : Binary64)
  deriving DecidableEq, Repr

end Json

/-- A JSON value. -/
inductive Json where
  | null
  | boolean (value : Bool)
  | number (value : Json.Number)
  | string (value : String)
  | array (elements : List Json)
  | object (members : List (String × Json))
  deriving Repr

namespace Json

/-- The members of an object from all that were written: a repeated name keeps its first place and
takes its last value. -/
def membersOf (written : Rows Json) : Rows Json :=
  written.foldl (fun members member => Rows.set member.1 member.2 members) []

mutual

/-- No object of the value repeats a name. -/
def WellFormed : Json → Prop
  | .array elements => WellFormedElements elements
  | .object members => (Rows.names members).Nodup ∧ WellFormedMembers members
  | _ => True

/-- `WellFormed` for every element. -/
def WellFormedElements : List Json → Prop
  | [] => True
  | value :: rest => WellFormed value ∧ WellFormedElements rest

/-- `WellFormed` for the value of every member. -/
def WellFormedMembers : List (String × Json) → Prop
  | [] => True
  | (_, value) :: rest => WellFormed value ∧ WellFormedMembers rest

end

theorem nodup_membersOf (written : Rows Json) : (Rows.names (membersOf written)).Nodup := by
  have step : ∀ written members : Rows Json, (Rows.names members).Nodup →
      (Rows.names (written.foldl (fun members member => Rows.set member.1 member.2 members)
        members)).Nodup := by
    intro written
    induction written with
    | nil => exact fun _ h => h
    | cons member rest ih => exact fun members h => ih _ (Rows.nodup_names_set h)
  exact step written [] (by simp)

end Json

end MessageCatalog
