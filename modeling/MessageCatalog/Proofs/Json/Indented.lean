import MessageCatalog.Json.Typed
import MessageCatalog.Proofs.Json.ReadBack

/-!
# Indented members are read back

In an indented object every member stands on a line of its own, and a blank follows its colon. The
readers pass over both. A reader of one type then reads a scalar of that type back, whatever stands
behind it; only a number must not be gone on with.

## Main definitions

* `Json.indentedBehind` — the text of an indented object behind one of its members.

## Main results

* `Json.nextName?_newLine`: the name at the start of a line is found
* `Json.readString_space`, `Json.readOptionalString_space`, `Json.readFlag_space`,
  `Json.readNatural_space`: a scalar behind the colon of its name is read back
-/

namespace MessageCatalog.Json

/-! ## Lines -/

theorem skipBlank_newLine_append (level : Nat) (cs : List Char) :
    skipBlank (newLine level ++ cs) = skipBlank cs := by
  apply List.dropWhile_append_of_pos
  intro c hc
  rcases List.mem_cons.mp hc with rfl | hspace
  · rfl
  · obtain rfl := List.eq_of_mem_replicate hspace
    rfl

theorem skipBlank_space (cs : List Char) : skipBlank (' ' :: cs) = skipBlank cs :=
  List.dropWhile_cons_of_pos rfl

theorem skipBlank_quote (rest : List Char) : skipBlank ('"' :: rest) = '"' :: rest :=
  skipBlank_cons_of_not_isBlank rfl rest

/-- The text of an indented object behind one of its members, given those that follow. -/
def indentedBehind (level : Nat) : List (String × Json) → List Char
  | [] => newLine level ++ ['}']
  | (name, value) :: rest =>
    ',' :: (newLine (level + 1) ++ (quote name ++
      ':' :: ' ' :: (indentedChars (level + 1) value ++ indentedBehind level rest)))

theorem indentedMembers_cons (level : Nat) (name : String) (value : Json)
    (rest : List (String × Json)) :
    indentedMembers level ((name, value) :: rest) =
      newLine (level + 1) ++ (quote name ++
        ':' :: ' ' :: (indentedChars (level + 1) value ++ indentedBehind level rest)) := by
  induction rest generalizing name value with
  | nil => simp [indentedMembers, indentedBehind]
  | cons next rest ih =>
    obtain ⟨other, later⟩ := next
    rw [indentedMembers, indentedBehind, ih]
    · simp
    · intro h
      cases h

theorem endsNumber_indentedBehind (level : Nat) (members : List (String × Json))
    (rest : List Char) : EndsNumber (indentedBehind level members ++ rest) := by
  cases members with
  | nil => exact endsNumber_cons (by decide)
  | cons member later => exact endsNumber_cons (by decide)

/-- The name at the start of a line is found, be it the first of the object or one behind a comma. -/
theorem nextName?_newLine (level : Nat) (name : String) (rest : List Char) :
    nextName? true (newLine level ++ (quote name ++ rest)) = .ok (some (name, rest)) ∧
      nextName? false (',' :: (newLine level ++ (quote name ++ rest))) =
        .ok (some (name, rest)) := by
  have hname := readName_quote name rest
  have hcomma : ∀ tail, skipBlank (',' :: tail) = ',' :: tail :=
    skipBlank_cons_of_not_isBlank rfl
  rw [quote_append]
  constructor
  · simp [nextName?, skipBlank_newLine_append, skipBlank_quote, hname]
  · simp [nextName?, hcomma, skipBlank_newLine_append, skipBlank_quote, hname]

/-- The bracket at the start of a line ends the object. -/
theorem nextName?_newLine_close (level : Nat) (rest : List Char) :
    nextName? false (newLine level ++ '}' :: rest) = .ok none ∧
      closeObject (newLine level ++ '}' :: rest) = .ok rest := by
  have hclose : skipBlank ('}' :: rest) = '}' :: rest := skipBlank_cons_of_not_isBlank rfl rest
  constructor
  · simp [nextName?, skipBlank_newLine_append, hclose]
  · simp [closeObject, skipBlank_newLine_append, hclose]

/-! ## Scalars behind a colon -/

theorem readString_space (text : String) (rest : List Char) :
    readString (' ' :: (quote text ++ rest)) = .ok (text, rest) := by
  simp only [readString, skipBlank_space, quote_append, skipBlank_quote, readText_flatMap_escape,
    Read.map, lift, String.ofList_toList]

theorem readOptionalString_space (text : String) (rest : List Char) :
    readOptionalString (' ' :: (quote text ++ rest)) = .ok (some text, rest) := by
  have hread := readString_space text rest
  rw [readString, skipBlank_space, quote_append, skipBlank_quote] at hread
  rw [readOptionalString, skipBlank_space, quote_append, skipBlank_quote]
  -- no text is the word for none, since it starts with a quote
  show Read.map some (readString _) = _
  rw [readString, skipBlank_quote, hread]
  rfl

theorem readFlag_space (value : Bool) (level : Nat) (rest : List Char) :
    readFlag (' ' :: (indentedChars level (.boolean value) ++ rest)) = .ok (value, rest) := by
  cases value <;> rw [indentedChars] <;> rfl

theorem readNatural_space {n : Nat} (hn : n ≤ maxSignificand) (level : Nat) {rest : List Char}
    (hrest : EndsNumber rest) :
    readNatural (' ' :: (indentedChars level (.number (.natural n)) ++ rest)) = .ok (n, rest) := by
  obtain ⟨c, cs, hcs, hc⟩ := exists_toDigits_eq_cons n
  have hnumber : readNumber false (c :: (cs ++ rest)) = .ok (.natural n, rest) := by
    rw [← List.cons_append, ← hcs, readNumber_toDigits hn hrest]
    rfl
  rw [indentedChars, Number.toList_render_natural, hcs, List.cons_append, readNatural,
    skipBlank_space, skipBlank_cons_of_not_isBlank (isBlank_of_isDigit hc)]
  simp only [if_neg (ne_of_isDigit hc '-' rfl), if_pos hc, hnumber, asNatural]

end MessageCatalog.Json
