/-!
# Named rows

A list of pairs of a name and a value, in the order in which the names were first used. A repeated
name can only come from outside: `Rows.update` keeps the names apart.

## Main definitions

* `Rows.names` — the names in order.
* `Rows.get?` — the value of a name; of several rows with the name, the first counts.
* `Rows.update` — changes the value of a name where it stands, or adds a row at the end.
* `Rows.set` — the same with a value that does not depend on the old one.

## Main results

* `Rows.get?_update_self`, `Rows.get?_update_of_ne`: only the value of the name changes
* `Rows.names_update`, `Rows.nodup_names_update`: names keep their order and stay distinct
-/

namespace MessageCatalog

/-- Values under names, in order. -/
abbrev Rows (α : Type) := List (String × α)

namespace Rows

variable {α : Type}

/-- The names of some rows. -/
def names (rows : Rows α) : List String :=
  rows.map Prod.fst

/-- The value in the first row of a name. -/
def get? (name : String) : Rows α → Option α
  | [] => none
  | (other, value) :: rest => if other = name then some value else get? name rest

/-- Gives a name the value made from its old one, in its row or in a new row at the end. -/
def update (name : String) (f : Option α → α) : Rows α → Rows α
  | [] => [(name, f none)]
  | (other, old) :: rest =>
    if other = name then (name, f (some old)) :: rest else (other, old) :: update name f rest

/-- Gives a name a value, in its row or in a new row at the end. -/
def set (name : String) (value : α) : Rows α → Rows α :=
  update name fun _ => value

/-- The rows of all other names. -/
def remove (name : String) (rows : Rows α) : Rows α :=
  rows.filter fun row => row.1 ≠ name

/-- Rows in the order of their names. -/
def sorted (rows : Rows α) : Rows α :=
  rows.mergeSort fun a b => decide (a.1 ≤ b.1)

/-! ## The value of a name -/

@[simp] theorem get?_nil (name : String) : get? name ([] : Rows α) = none := rfl

theorem get?_cons (name other : String) (value : α) (rest : Rows α) :
    get? name ((other, value) :: rest) = if other = name then some value else get? name rest := rfl

@[simp] theorem get?_cons_self (name : String) (value : α) (rest : Rows α) :
    get? name ((name, value) :: rest) = some value := by
  simp [get?_cons]

theorem get?_cons_of_ne {name other : String} (h : other ≠ name) (value : α) (rest : Rows α) :
    get? name ((other, value) :: rest) = get? name rest := by
  simp [get?_cons, h]

@[simp] theorem get?_update_self (name : String) (f : Option α → α) (rows : Rows α) :
    get? name (update name f rows) = some (f (get? name rows)) := by
  induction rows with
  | nil => simp [update]
  | cons row rest ih =>
    obtain ⟨other, old⟩ := row
    by_cases h : other = name
    · simp [update, h]
    · simp [update, h, get?_cons, ih]

theorem get?_update_of_ne {name other : String} (h : other ≠ name) (f : Option α → α)
    (rows : Rows α) : get? other (update name f rows) = get? other rows := by
  induction rows with
  | nil => simp [update, get?_cons, h.symm]
  | cons row rest ih =>
    obtain ⟨first, old⟩ := row
    by_cases hfirst : first = name
    · simp [update, hfirst, get?_cons, h.symm]
    · simp [update, hfirst, get?_cons, ih]

@[simp] theorem get?_set_self (name : String) (value : α) (rows : Rows α) :
    get? name (set name value rows) = some value :=
  get?_update_self name _ rows

theorem get?_set_of_ne {name other : String} (h : other ≠ name) (value : α) (rows : Rows α) :
    get? other (set name value rows) = get? other rows :=
  get?_update_of_ne h _ rows

theorem get?_remove_self (name : String) (rows : Rows α) : get? name (remove name rows) = none := by
  induction rows with
  | nil => rfl
  | cons row rest ih =>
    obtain ⟨other, value⟩ := row
    by_cases h : other = name
    · simpa [remove, h] using ih
    · simpa [remove, h, get?_cons] using ih

theorem get?_remove_of_ne {name other : String} (h : other ≠ name) (rows : Rows α) :
    get? other (remove name rows) = get? other rows := by
  induction rows with
  | nil => rfl
  | cons row rest ih =>
    obtain ⟨first, value⟩ := row
    by_cases hfirst : first = name
    · simpa [remove, hfirst, get?_cons, h.symm] using ih
    · by_cases hother : first = other
      · simp [remove, hother, h]
      · simpa [remove, hfirst, get?_cons, hother] using ih

/-! ## The names -/

@[simp] theorem names_nil : names ([] : Rows α) = [] := rfl

@[simp] theorem names_cons (row : String × α) (rest : Rows α) :
    names (row :: rest) = row.1 :: names rest := rfl

theorem names_update (name : String) (f : Option α → α) (rows : Rows α) :
    names (update name f rows) =
      if name ∈ names rows then names rows else names rows ++ [name] := by
  induction rows with
  | nil => simp [update]
  | cons row rest ih =>
    obtain ⟨other, old⟩ := row
    by_cases h : other = name
    · simp [update, h]
    · have hne : name ≠ other := fun hname => h hname.symm
      by_cases hmem : name ∈ names rest <;> simp [update, h, hne, hmem, ih]

theorem nodup_names_update {name : String} {f : Option α → α} {rows : Rows α}
    (h : (names rows).Nodup) : (names (update name f rows)).Nodup := by
  rw [names_update]
  split
  · exact h
  · next hmem =>
    refine List.nodup_append.2 ⟨h, by simp, ?_⟩
    intro a ha b hb hab
    exact hmem (List.mem_singleton.1 hb ▸ hab ▸ ha)

theorem nodup_names_set {name : String} {value : α} {rows : Rows α} (h : (names rows).Nodup) :
    (names (set name value rows)).Nodup :=
  nodup_names_update h

theorem get?_eq_none_iff {name : String} {rows : Rows α} :
    get? name rows = none ↔ name ∉ names rows := by
  induction rows with
  | nil => simp
  | cons row rest ih =>
    obtain ⟨other, value⟩ := row
    by_cases h : other = name
    · simp [h]
    · have hne : name ≠ other := fun hname => h hname.symm
      simp [get?_cons, h, hne, ih]

end Rows

end MessageCatalog
