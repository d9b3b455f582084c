import Mathlib.Data.List.Basic
import Mathlib.Data.List.Induction
import MessageCatalog.Rows

/-!
# Rows filled by a loop

A loop that updates one row for each element of a list leaves, under every name, what the elements
of that name make of the old value, one after the other. Elements of other names have no say.

## Main results

* `Rows.get?_foldl_update`: the value of a name after a loop of updates
* `Rows.get?_foldl_set`: after a loop that only sets values, the last value of the name counts
* `Rows.mem_of_get?_eq_some`, `Rows.get?_of_mem`: a value that is found stands in a row of its name,
  and is found there if names are distinct
* `Rows.pairwise_idxOf_eraseDups`: without repetitions a list keeps the order of its first elements
* `Rows.names_foldl_update`: a loop brings names in at their first elements and never moves them
-/

namespace MessageCatalog.Rows

variable {α β : Type}

theorem mem_of_get?_eq_some {name : String} {value : α} {rows : Rows α}
    (h : get? name rows = some value) : (name, value) ∈ rows := by
  induction rows with
  | nil => simp at h
  | cons row rest ih =>
    obtain ⟨other, old⟩ := row
    rw [get?_cons] at h
    split at h
    · next hname =>
      obtain rfl := Option.some.inj h
      exact hname ▸ List.mem_cons_self
    · exact List.mem_cons_of_mem _ (ih h)

/-- Setting a value leaves only rows that were there before, but for its own. -/
theorem mem_of_mem_set {name : String} {value : α} {rows : Rows α} {row : String × α}
    (h : row ∈ set name value rows) : row = (name, value) ∨ row ∈ rows := by
  induction rows with
  | nil => exact .inl (List.mem_singleton.mp h)
  | cons first rest ih =>
    rw [set, update] at h
    split at h
    · rcases List.mem_cons.mp h with rfl | hrest
      · exact .inl rfl
      · exact .inr (List.mem_cons_of_mem _ hrest)
    · rcases List.mem_cons.mp h with rfl | hrest
      · exact .inr List.mem_cons_self
      · exact (ih hrest).imp_right (List.mem_cons_of_mem _)

/-- In rows with distinct names, a name has the value of its only row. -/
theorem get?_of_mem {rows : Rows α} (hnames : (names rows).Nodup) {name : String} {value : α}
    (hmem : (name, value) ∈ rows) : get? name rows = some value := by
  induction rows with
  | nil => simp at hmem
  | cons row rest ih =>
    obtain ⟨other, old⟩ := row
    rw [names_cons, List.nodup_cons] at hnames
    rcases List.mem_cons.mp hmem with heq | hrest
    · obtain ⟨rfl, rfl⟩ := Prod.mk.inj heq
      exact get?_cons_self name value rest
    · have hne : other ≠ name := by
        rintro rfl
        exact hnames.1 (List.mem_map.mpr ⟨_, hrest, rfl⟩)
      rw [get?_cons_of_ne hne]
      exact ih hnames.2 hrest

/-- **The value of a name after a loop of updates**: the elements of that name act on its old value
in their order. -/
theorem get?_foldl_update (nameOf : β → String) (f : β → Option α → α) (name : String)
    (xs : List β) (rows : Rows α) :
    get? name (xs.foldl (fun rows x => update (nameOf x) (f x) rows) rows) =
      (xs.filter fun x => nameOf x = name).foldl (fun value x => some (f x value))
        (get? name rows) := by
  induction xs generalizing rows with
  | nil => rfl
  | cons x rest ih =>
    rw [List.foldl_cons, ih]
    -- only an element of this name has changed the value that the rest starts from
    by_cases hx : nameOf x = name
    · subst hx
      simp
    · rw [get?_update_of_ne (Ne.symm hx)]
      simp [hx]

/-- A loop that sets values leaves the last one that a name was given. -/
theorem get?_foldl_set (nameOf : β → String) (valueOf : β → α) (name : String) (xs : List β)
    (rows : Rows α) :
    get? name (xs.foldl (fun rows x => set (nameOf x) (valueOf x) rows) rows) =
      ((xs.filter fun x => nameOf x = name).getLast?.map valueOf).or (get? name rows) := by
  -- every element forgets the value before it, so the list is read from its end
  have hlast : ∀ (ys : List β) (value : Option α),
      ys.foldl (fun _ x => some (valueOf x)) value = (ys.getLast?.map valueOf).or value := by
    intro ys
    induction ys using List.reverseRecOn with
    | nil => intro value; rfl
    | append_singleton ys y _ => intro value; simp
  exact (get?_foldl_update nameOf (fun x _ => valueOf x) name xs rows).trans (hlast _ _)

/-! ## The names after a loop -/

/-- An element at the end of a list is the first of its kind if the list does not hold it. -/
theorem eraseDups_concat (xs : List String) (x : String) :
    (xs ++ [x]).eraseDups = if x ∈ xs then xs.eraseDups else xs.eraseDups ++ [x] := by
  rw [List.eraseDups_append]
  by_cases hx : x ∈ xs
  · have hnew : [x].removeAll xs = [] := by simp [List.removeAll, hx]
    rw [if_pos hx, hnew, List.eraseDups_nil, List.append_nil]
  · have hnew : [x].removeAll xs = [x] := by simp [List.removeAll, hx]
    rw [if_neg hx, hnew]
    rfl

theorem eraseDups_eq_self {xs : List String} (h : xs.Nodup) : xs.eraseDups = xs := by
  induction xs using List.reverseRecOn with
  | nil => rfl
  | append_singleton xs x ih =>
    obtain ⟨hxs, -, hapart⟩ := List.nodup_append.mp h
    have hnew : x ∉ xs := fun hx => hapart x hx x List.mem_cons_self rfl
    rw [eraseDups_concat, if_neg hnew, ih hxs]

/-- The elements of a list without their repetitions stand in the order of their first places. -/
theorem pairwise_idxOf_eraseDups (xs : List String) :
    xs.eraseDups.Pairwise fun one other => xs.idxOf one < xs.idxOf other := by
  induction xs using List.reverseRecOn with
  | nil => exact List.Pairwise.nil
  | append_singleton xs x ih =>
    -- an element at the end moves no first place of the elements before it
    have hkept : xs.eraseDups.Pairwise fun one other =>
        (xs ++ [x]).idxOf one < (xs ++ [x]).idxOf other := by
      refine ih.imp_of_mem fun {one other} hone hother hlt => ?_
      rw [List.mem_eraseDups] at hone hother
      rwa [List.idxOf_append_of_mem hone, List.idxOf_append_of_mem hother]
    rw [eraseDups_concat]
    split
    · exact hkept
    · next hnew =>
      refine List.pairwise_append.mpr ⟨hkept, List.pairwise_singleton _ _, ?_⟩
      intro one hone last hlast
      obtain rfl := List.mem_singleton.mp hlast
      rw [List.mem_eraseDups] at hone
      rw [List.idxOf_append_of_mem hone, List.idxOf_append_of_notMem hnew]
      exact Nat.lt_add_right _ (List.idxOf_lt_length_of_mem hone)

/-- **A loop of updates brings names in at their first elements** and never moves them. -/
theorem names_foldl_update (nameOf : β → String) (f : β → Option α → α) (xs : List β) :
    names (xs.foldl (fun rows x => update (nameOf x) (f x) rows) []) =
      (xs.map nameOf).eraseDups := by
  induction xs using List.reverseRecOn with
  | nil => rfl
  | append_singleton xs x ih =>
    rw [List.foldl_append, List.foldl_cons, List.foldl_nil, names_update, ih, List.map_append,
      List.map_singleton, eraseDups_concat]
    simp only [List.mem_eraseDups]

theorem nodup_names_foldl_update (nameOf : β → String) (f : β → Option α → α) (xs : List β) :
    (names (xs.foldl (fun rows x => update (nameOf x) (f x) rows) [])).Nodup := by
  induction xs using List.reverseRecOn with
  | nil => exact List.nodup_nil
  | append_singleton xs x ih =>
    rw [List.foldl_append]
    exact nodup_names_update ih

/-! ## A value that is made by a loop -/

/-- A loop that makes its first value from a given one has a value after the first element. -/
theorem foldl_getD (g : α → β → α) (start : α) (xs : List β) :
    xs.foldl (fun value x => some (g (value.getD start) x)) none =
      if xs = [] then none else some (xs.foldl g start) := by
  induction xs using List.reverseRecOn with
  | nil => rfl
  | append_singleton xs x ih =>
    rw [List.foldl_append, ih]
    by_cases hxs : xs = []
    · simp [hxs]
    · simp [hxs]

/-! ## Rows that are mapped or filtered -/

/-- The value of a name after its values are mapped. -/
theorem get?_map (f : α → β) (name : String) (rows : Rows α) :
    get? name (rows.map fun row => (row.1, f row.2)) = (get? name rows).map f := by
  induction rows with
  | nil => rfl
  | cons row rest ih =>
    rw [List.map_cons, get?_cons, get?_cons, ih]
    split <;> rfl

theorem map_set (f : α → β) (name : String) (value : α) (rows : Rows α) :
    (set name value rows).map (fun row => (row.1, f row.2)) =
      set name (f value) (rows.map fun row => (row.1, f row.2)) := by
  induction rows with
  | nil => rfl
  | cons row rest ih =>
    rw [set, update, List.map_cons, set, update]
    split
    · rfl
    · rw [List.map_cons]
      exact congrArg _ ih

theorem map_remove (f : α → β) (name : String) (rows : Rows α) :
    (remove name rows).map (fun row => (row.1, f row.2)) =
      remove name (rows.map fun row => (row.1, f row.2)) := by
  rw [remove, remove, List.filter_map]
  rfl

/-- Setting the value that is there changes nothing. -/
theorem set_eq_self {name : String} {value : α} {rows : Rows α} (h : get? name rows = some value) :
    set name value rows = rows := by
  induction rows with
  | nil => cases h
  | cons row rest ih =>
    rw [get?_cons] at h
    rw [set, update]
    split
    · next hname =>
      rw [if_pos hname] at h
      obtain rfl := Option.some.inj h
      rw [← hname]
    · next hname =>
      rw [if_neg hname] at h
      exact congrArg _ (ih h)

/-- A name that is new gets a row at the end. -/
theorem set_eq_append {name : String} {rows : Rows α} (h : get? name rows = none) (value : α) :
    set name value rows = rows ++ [(name, value)] := by
  induction rows with
  | nil => rfl
  | cons row rest ih =>
    rw [get?_cons] at h
    split at h
    · cases h
    · next hname =>
      rw [set, update, if_neg hname]
      exact congrArg _ (ih h)

/-- Rows of other names are untouched when a value is set. -/
theorem filter_set {p : String × α → Bool} {name : String} (hp : ∀ value, p (name, value) = false)
    (value : α) (rows : Rows α) : (set name value rows).filter p = rows.filter p := by
  induction rows with
  | nil => simp [set, update, hp]
  | cons row rest ih =>
    rw [set, update]
    split
    · next hname =>
      obtain ⟨other, old⟩ := row
      subst hname
      simp [hp]
    · rw [List.filter_cons, List.filter_cons]
      exact congrArg (fun rows => if p row = true then row :: rows else rows) ih

theorem filter_remove {p : String × α → Bool} {name : String}
    (hp : ∀ value, p (name, value) = false) (rows : Rows α) :
    (remove name rows).filter p = rows.filter p := by
  rw [remove, List.filter_filter]
  apply List.filter_congr
  rintro ⟨other, value⟩ -
  by_cases hname : other = name
  · simp [hname, hp]
  · simp [hname]

end MessageCatalog.Rows
