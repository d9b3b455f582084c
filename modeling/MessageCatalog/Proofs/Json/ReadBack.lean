import Mathlib.Data.List.DropRight
import MessageCatalog.Json.Writer
import MessageCatalog.Proofs.Json.Tokens
import MessageCatalog.Proofs.Rows

/-!
# Values are read back

What a reader returns has distinct names in each object, numbers in range, and no more lists and
objects around each other than the reader may open. A value of this kind without floating-point
numbers is read back from its own text.

## Main definitions

* `Json.Readable` — the values that a reader can return that may open some number of lists and
  objects.
* `Json.numbers` — all numbers in a value.

## Main results

* `Json.readable_of_readValue`: a value that is read is readable
* `Json.readValue_compactChars`: a readable value of whole numbers is read back from its text
* `Json.parse_compact`: the same for a text that holds nothing else
-/

namespace MessageCatalog.Json

/-! ## Readable values -/

/-- The values that a reader can return that may open `depth` lists and objects around each
other. -/
inductive Readable : Nat → Json → Prop where
  | null {depth : Nat} : Readable depth .null
  | boolean {depth : Nat} (value : Bool) : Readable depth (.boolean value)
  | number {depth : Nat} {n : Number} (hrange : n.InRange) : Readable depth (.number n)
  | string {depth : Nat} (text : String) : Readable depth (.string text)
  | array {depth : Nat} {elements : List Json}
      (helements : ∀ value ∈ elements, Readable depth value) :
      Readable (depth + 1) (.array elements)
  | object {depth : Nat} {members : List (String × Json)} (hnames : (Rows.names members).Nodup)
      (hmembers : ∀ member ∈ members, Readable depth member.2) :
      Readable (depth + 1) (.object members)

/-- A reader that may open more returns what one that may open less does. -/
theorem Readable.mono {depth : Nat} {value : Json} (h : Readable depth value) {more : Nat}
    (hle : depth ≤ more) : Readable more value := by
  induction h generalizing more with
  | null => exact .null
  | boolean value => exact .boolean value
  | number hrange => exact .number hrange
  | string text => exact .string text
  | array _ ih =>
    cases more with
    | zero => cases hle
    | succ more =>
      exact .array fun value hvalue => ih value hvalue (Nat.le_of_succ_le_succ hle)
  | object hnames _ ih =>
    cases more with
    | zero => cases hle
    | succ more =>
      exact .object hnames fun member hmember => ih member hmember (Nat.le_of_succ_le_succ hle)

mutual

/-- All numbers in a value. -/
def numbers : Json → List Number
  | .number n => [n]
  | .array elements => numbersOfElements elements
  | .object members => numbersOfMembers members
  | .null | .boolean _ | .string _ => []

/-- All numbers in some elements. -/
def numbersOfElements : List Json → List Number
  | [] => []
  | value :: rest => numbers value ++ numbersOfElements rest

/-- All numbers in the values of some members. -/
def numbersOfMembers : List (String × Json) → List Number
  | [] => []
  | (_, value) :: rest => numbers value ++ numbersOfMembers rest

end

theorem numbers_array (elements : List Json) :
    (Json.array elements).numbers = elements.flatMap numbers := by
  rw [numbers]
  induction elements with
  | nil => rw [numbersOfElements, List.flatMap_nil]
  | cons value rest ih => rw [numbersOfElements, List.flatMap_cons, ih]

theorem numbers_object (members : List (String × Json)) :
    (Json.object members).numbers = members.flatMap fun member => member.2.numbers := by
  rw [numbers]
  induction members with
  | nil => rw [numbersOfMembers, List.flatMap_nil]
  | cons member rest ih =>
    obtain ⟨name, value⟩ := member
    rw [numbersOfMembers, List.flatMap_cons, ih]

/-! ## The members of an object -/

theorem mem_of_mem_membersOf {written : Rows Json} {member : String × Json}
    (h : member ∈ membersOf written) : member ∈ written := by
  have step : ∀ written members : Rows Json,
      member ∈ written.foldl (fun members member => Rows.set member.1 member.2 members) members →
        member ∈ written ∨ member ∈ members := by
    intro written
    induction written with
    | nil => exact fun members h => Or.inr h
    | cons first rest ih =>
      intro members hmem
      rcases ih _ hmem with hrest | hset
      · exact Or.inl (List.mem_cons_of_mem first hrest)
      · rcases Rows.mem_of_mem_set hset with rfl | hold
        · exact Or.inl List.mem_cons_self
        · exact Or.inr hold
  rcases step written [] h with hwritten | hnone
  · exact hwritten
  · cases hnone

/-- Members with distinct names are kept as they are written. -/
theorem membersOf_eq_self {written : Rows Json} (h : (Rows.names written).Nodup) :
    membersOf written = written := by
  have step : ∀ written members : Rows Json, (Rows.names (members ++ written)).Nodup →
      written.foldl (fun members member => Rows.set member.1 member.2 members) members =
        members ++ written := by
    intro written
    induction written with
    | nil => exact fun members _ => (List.append_nil members).symm
    | cons first rest ih =>
      intro members hnodup
      have hnew : Rows.get? first.1 members = none := by
        rw [Rows.get?_eq_none_iff]
        intro hmem
        rw [Rows.names, List.map_append, List.nodup_append] at hnodup
        exact hnodup.2.2 first.1 hmem first.1 (by simp) rfl
      rw [List.foldl_cons, Rows.set_eq_append hnew, ih _ (by simpa using hnodup),
        List.append_assoc]
      rfl
  exact step written [] h

/-! ## What a reader returns -/

theorem Read.eq_ok_of_map {ε α β : Type} {f : α → β} {read : Read ε α} {value : β}
    {rest : List Char} (h : Read.map f read = .ok (value, rest)) :
    ∃ inner, read = .ok (inner, rest) ∧ value = f inner := by
  unfold Read.map at h
  split at h
  · cases h
    exact ⟨_, rfl, rfl⟩
  · cases h

theorem eq_of_map_rest {α : Type} {read : Except (Stop Fault) (List Char)}
    {f : List Char → α × List Char} {value constant : α} {rest : List Char}
    (hf : ∀ cs, f cs = (constant, cs)) (h : read.map f = .ok (value, rest)) :
    value = constant := by
  cases read with
  | error stop => cases h
  | ok cs =>
    have hpair : f cs = (value, rest) := Except.ok.inj h
    rw [hf] at hpair
    exact (congrArg Prod.fst hpair).symm

mutual

/-- **A value that is read is readable.** -/
theorem readable_of_readValue {fuel depth : Nat} {cs rest : List Char} {value : Json}
    (h : readValue fuel depth cs = .ok (value, rest)) : Readable depth value := by
  match fuel with
  | 0 =>
    rw [readValue] at h
    cases h
  | fuel + 1 =>
    rw [readValue] at h
    split at h
    · cases h
    · split_ifs at h
      · exact eq_of_map_rest (fun _ => rfl) h ▸ .null
      · exact eq_of_map_rest (fun _ => rfl) h ▸ .boolean true
      · exact eq_of_map_rest (fun _ => rfl) h ▸ .boolean false
      · obtain ⟨n, hn, rfl⟩ := Read.eq_ok_of_map h
        exact .number (inRange_of_readNumber hn)
      · obtain ⟨n, hn, rfl⟩ := Read.eq_ok_of_map h
        exact .number (inRange_of_readNumber hn)
      · obtain ⟨text, -, rfl⟩ := Read.eq_ok_of_map h
        exact .string _
      · cases depth with
        | zero => cases h
        | succ depth =>
          obtain ⟨elements, helements, rfl⟩ := Read.eq_ok_of_map h
          exact .array (readable_of_readElements helements)
      · cases depth with
        | zero => cases h
        | succ depth =>
          obtain ⟨written, hwritten, rfl⟩ := Read.eq_ok_of_map h
          exact .object (nodup_membersOf written) fun member hmember =>
            readable_of_readMembers hwritten member (mem_of_mem_membersOf hmember)

theorem readable_of_readElements {fuel depth : Nat} {isFirst : Bool} {cs rest : List Char}
    {elements : List Json} (h : readElements fuel depth isFirst cs = .ok (elements, rest)) :
    ∀ value ∈ elements, Readable depth value := by
  match fuel with
  | 0 =>
    rw [readElements] at h
    cases h
  | fuel + 1 =>
    rw [readElements] at h
    split at h
    · cases h
    · -- the list ends here
      have hnil := eq_of_map_rest (fun _ => rfl) h
      rw [hnil]
      intro value hvalue
      cases hvalue
    · split at h
      · cases h
      · next hvalue =>
        obtain ⟨later, hlater, rfl⟩ := Read.eq_ok_of_map h
        rw [List.forall_mem_cons]
        exact ⟨readable_of_readValue hvalue, readable_of_readElements hlater⟩

theorem readable_of_readMembers {fuel depth : Nat} {isFirst : Bool} {cs rest : List Char}
    {written : List (String × Json)} (h : readMembers fuel depth isFirst cs = .ok (written, rest)) :
    ∀ member ∈ written, Readable depth member.2 := by
  match fuel with
  | 0 =>
    rw [readMembers] at h
    cases h
  | fuel + 1 =>
    rw [readMembers] at h
    split at h
    · cases h
    · -- the object ends here
      have hnil := eq_of_map_rest (fun _ => rfl) h
      rw [hnil]
      intro member hmember
      cases hmember
    · split at h
      · cases h
      · split at h
        · cases h
        · next hvalue =>
          obtain ⟨later, hlater, rfl⟩ := Read.eq_ok_of_map h
          rw [List.forall_mem_cons]
          exact ⟨readable_of_readValue hvalue, readable_of_readMembers hlater⟩

end

theorem readable_of_parse {text : String} {value : Json} (h : parse text = .ok value) :
    Readable maxOpen value := by
  unfold parse at h
  split at h
  · cases h
  · next rest hread =>
    cases hend : readEnd rest with
    | error stop =>
      rw [hend] at h
      cases h
    | ok =>
      rw [hend] at h
      cases h
      exact readable_of_readValue hread

/-! ## Reading back -/

@[simp] theorem skipBlank_cons_of_not_isBlank {c : Char} (h : isBlank c = false)
    (rest : List Char) : skipBlank (c :: rest) = c :: rest :=
  List.dropWhile_cons_of_neg (by simp [h])

theorem skipBlank_skipBlank (cs : List Char) : skipBlank (skipBlank cs) = skipBlank cs :=
  List.dropWhile_idempotent isBlank cs

theorem readValue_skipBlank (fuel depth : Nat) (cs : List Char)
    {p : Json × List Char} (h : readValue fuel depth cs = .ok p) :
    readValue fuel depth (skipBlank cs) = .ok p := by
  cases fuel with
  | zero =>
    rw [readValue] at h
    cases h
  | succ fuel =>
    rw [readValue] at h ⊢
    rw [skipBlank_skipBlank]
    exact h

/-- Where a value can be read, a list does not end. -/
theorem nextElement?_of_readValue {fuel depth : Nat} {cs : List Char} {p : Json × List Char}
    (h : readValue fuel depth cs = .ok p) :
    nextElement? true cs = .ok (some (skipBlank cs)) ∧
      nextElement? false (',' :: cs) = .ok (some (skipBlank cs)) := by
  cases fuel with
  | zero =>
    rw [readValue] at h
    cases h
  | succ fuel =>
    have hcomma : skipBlank (',' :: cs) = ',' :: cs := skipBlank_cons_of_not_isBlank rfl cs
    rw [readValue] at h
    cases hcs : skipBlank cs with
    | nil =>
      rw [hcs] at h
      cases h
    | cons c rest =>
      have hc : c ≠ ']' := by
        rintro rfl
        rw [hcs] at h
        simp at h
      constructor
      · simp only [nextElement?, hcs, if_neg hc, if_true]
      · simp [nextElement?, hcomma, hcs, hc]

/-- A value is read back from its text with anything behind it that does not go on with a
number. -/
def ReadsBack (depth : Nat) (value : Json) : Prop :=
  ∀ fuel rest, 2 * (compactChars value).length ≤ fuel → EndsNumber rest →
    readValue fuel depth (compactChars value ++ rest) = .ok (value, rest)

/-- A value without others in it is read with any fuel, and its text is not empty. -/
theorem readsBack_of_succ {depth : Nat} {value : Json} (hne : compactChars value ≠ [])
    (h : ∀ fuel rest, EndsNumber rest →
      readValue (fuel + 1) depth (compactChars value ++ rest) = .ok (value, rest)) :
    ReadsBack depth value := by
  intro fuel rest hfuel hrest
  have hlength := List.length_pos_iff.mpr hne
  obtain ⟨fuel, rfl⟩ : ∃ fewer, fuel = fewer + 1 := Nat.exists_eq_add_of_le' (by omega)
  exact h fuel rest hrest

/-! ### Lists -/

/-- The text of a list behind one of its elements, given those that follow. -/
def behindElement : List Json → List Char
  | [] => [']']
  | value :: rest => ',' :: (compactChars value ++ behindElement rest)

theorem compactElements_cons (value : Json) (rest : List Json) :
    compactElements (value :: rest) = compactChars value ++ behindElement rest := by
  induction rest generalizing value with
  | nil => rw [compactElements, behindElement]
  | cons next rest ih =>
    rw [compactElements, behindElement, ih]
    intro h
    cases h

theorem endsNumber_behindElement (elements : List Json) (rest : List Char) :
    EndsNumber (behindElement elements ++ rest) := by
  cases elements with
  | nil => exact endsNumber_cons (by decide)
  | cons value later => exact endsNumber_cons (by decide)

/-- The elements behind one of a list are read back. -/
theorem readElements_behindElement {depth : Nat} {elements : List Json}
    (h : ∀ value ∈ elements, ReadsBack depth value) (fuel : Nat)
    (hfuel : 2 * (behindElement elements).length ≤ fuel) (rest : List Char) :
    readElements fuel depth false (behindElement elements ++ rest) = .ok (elements, rest) := by
  induction elements generalizing fuel with
  | nil =>
    obtain ⟨fuel, rfl⟩ : ∃ fewer, fuel = fewer + 1 := Nat.exists_eq_add_of_le' (by
      rw [behindElement, List.length_singleton] at hfuel
      omega)
    rw [readElements]
    rfl
  | cons value later ih =>
    rw [behindElement, List.length_cons, List.length_append] at hfuel
    obtain ⟨fuel, rfl⟩ : ∃ fewer, fuel = fewer + 1 := Nat.exists_eq_add_of_le' (by omega)
    have hvalue := h value List.mem_cons_self fuel (behindElement later ++ rest) (by omega)
      (endsNumber_behindElement later rest)
    rw [behindElement, List.cons_append, List.append_assoc, readElements,
      (nextElement?_of_readValue hvalue).2]
    simp only [readValue_skipBlank _ _ _ hvalue]
    have hlater := ih (fun other hother => h other (List.mem_cons_of_mem value hother)) fuel
      (by omega)
    rw [hlater]
    rfl

theorem readsBack_array {depth : Nat} {elements : List Json}
    (h : ∀ value ∈ elements, ReadsBack depth value) : ReadsBack (depth + 1) (.array elements) := by
  intro fuel rest hfuel hrest
  rw [compactChars, List.length_cons] at hfuel
  obtain ⟨fuel, rfl⟩ : ∃ fewer, fuel = fewer + 2 := Nat.exists_eq_add_of_le' (by omega)
  have hopen : readValue (fuel + 2) (depth + 1) ('[' :: (compactElements elements ++ rest)) =
      Read.map .array (readElements (fuel + 1) depth true (compactElements elements ++ rest)) := by
    rw [readValue]
    rfl
  rw [compactChars, List.cons_append, hopen]
  cases elements with
  | nil =>
    rw [compactElements, readElements]
    rfl
  | cons value later =>
    rw [compactElements_cons, List.length_append] at hfuel
    rw [compactElements_cons, List.append_assoc]
    have hvalue := h value List.mem_cons_self fuel (behindElement later ++ rest) (by omega)
      (endsNumber_behindElement later rest)
    rw [readElements, (nextElement?_of_readValue hvalue).1]
    simp only [readValue_skipBlank _ _ _ hvalue]
    rw [readElements_behindElement
      (fun other hother => h other (List.mem_cons_of_mem value hother)) fuel (by omega)]
    rfl

/-! ### Objects -/

/-- The text of an object behind one of its members, given those that follow. -/
def behindMember : List (String × Json) → List Char
  | [] => ['}']
  | (name, value) :: rest => ',' :: (quote name ++ ':' :: (compactChars value ++ behindMember rest))

theorem compactMembers_cons (name : String) (value : Json) (rest : List (String × Json)) :
    compactMembers ((name, value) :: rest) =
      quote name ++ ':' :: (compactChars value ++ behindMember rest) := by
  induction rest generalizing name value with
  | nil => simp [compactMembers, behindMember]
  | cons next rest ih =>
    obtain ⟨other, later⟩ := next
    rw [compactMembers, behindMember, ih]
    · simp
    · intro h
      cases h

theorem endsNumber_behindMember (members : List (String × Json)) (rest : List Char) :
    EndsNumber (behindMember members ++ rest) := by
  cases members with
  | nil => exact endsNumber_cons (by decide)
  | cons member later => exact endsNumber_cons (by decide)

theorem readName_quote (name : String) (rest : List Char) :
    readName (name.toList.flatMap escape ++ '"' :: rest) = .ok (some (name, rest)) := by
  simp only [readName, readText_flatMap_escape, String.ofList_toList]

theorem nextName?_quote (name : String) (rest : List Char) :
    nextName? true (quote name ++ rest) = .ok (some (name, rest)) ∧
      nextName? false (',' :: (quote name ++ rest)) = .ok (some (name, rest)) := by
  have hname := readName_quote name rest
  have hquote : ∀ tail, skipBlank ('"' :: tail) = '"' :: tail :=
    skipBlank_cons_of_not_isBlank rfl
  have hcomma : ∀ tail, skipBlank (',' :: tail) = ',' :: tail :=
    skipBlank_cons_of_not_isBlank rfl
  rw [quote_append]
  constructor
  · simp [nextName?, hquote, hname]
  · simp [nextName?, hcomma, hquote, hname]

theorem readColon_cons (rest : List Char) : readColon (':' :: rest) = .ok rest := by
  rw [readColon, skipBlank_cons_of_not_isBlank rfl]
  rfl

/-- The members behind one of an object are read back. -/
theorem readMembers_behindMember {depth : Nat} {members : List (String × Json)}
    (h : ∀ member ∈ members, ReadsBack depth member.2) (fuel : Nat)
    (hfuel : 2 * (behindMember members).length ≤ fuel) (rest : List Char) :
    readMembers fuel depth false (behindMember members ++ rest) = .ok (members, rest) := by
  induction members generalizing fuel with
  | nil =>
    obtain ⟨fuel, rfl⟩ : ∃ fewer, fuel = fewer + 1 := Nat.exists_eq_add_of_le' (by
      rw [behindMember, List.length_singleton] at hfuel
      omega)
    rw [readMembers]
    rfl
  | cons member later ih =>
    obtain ⟨name, value⟩ := member
    simp only [behindMember, List.length_cons, List.length_append] at hfuel
    obtain ⟨fuel, rfl⟩ : ∃ fewer, fuel = fewer + 1 := Nat.exists_eq_add_of_le' (by omega)
    have hmember : ReadsBack depth value := h (name, value) List.mem_cons_self
    have hvalue := hmember fuel (behindMember later ++ rest) (by omega)
      (endsNumber_behindMember later rest)
    have hlater := ih (fun other hother => h other (List.mem_cons_of_mem _ hother)) fuel (by omega)
    rw [behindMember, List.cons_append, List.append_assoc, List.cons_append, List.append_assoc,
      readMembers, (nextName?_quote name _).2]
    simp only [readColon_cons, hvalue, hlater]
    rfl

theorem readsBack_object {depth : Nat} {members : List (String × Json)}
    (hnames : (Rows.names members).Nodup) (h : ∀ member ∈ members, ReadsBack depth member.2) :
    ReadsBack (depth + 1) (.object members) := by
  intro fuel rest hfuel hrest
  rw [compactChars, List.length_cons] at hfuel
  obtain ⟨fuel, rfl⟩ : ∃ fewer, fuel = fewer + 2 := Nat.exists_eq_add_of_le' (by omega)
  have hopen : readValue (fuel + 2) (depth + 1) ('{' :: (compactMembers members ++ rest)) =
      Read.map (fun written => .object (membersOf written))
        (readMembers (fuel + 1) depth true (compactMembers members ++ rest)) := by
    rw [readValue]
    rfl
  rw [compactChars, List.cons_append, hopen]
  cases members with
  | nil =>
    rw [compactMembers, readMembers]
    rfl
  | cons member later =>
    obtain ⟨name, value⟩ := member
    simp only [compactMembers_cons, List.length_append, List.length_cons] at hfuel
    have hmember : ReadsBack depth value := h (name, value) List.mem_cons_self
    have hvalue := hmember fuel (behindMember later ++ rest) (by omega)
      (endsNumber_behindMember later rest)
    have hlater := readMembers_behindMember
      (fun other hother => h other (List.mem_cons_of_mem _ hother)) fuel (by omega) rest
    rw [compactMembers_cons, List.append_assoc, List.cons_append, List.append_assoc, readMembers,
      (nextName?_quote name _).1]
    simp only [readColon_cons, hvalue, hlater]
    exact congrArg (fun written => Except.ok (Json.object written, rest)) (membersOf_eq_self hnames)

/-! ### Values -/

theorem ne_of_isDigit {c : Char} (hc : c.isDigit = true) (d : Char) (hd : d.isDigit = false) :
    c ≠ d := by
  rintro rfl
  rw [hc] at hd
  cases hd

theorem isBlank_of_isDigit {c : Char} (hc : c.isDigit = true) : isBlank c = false := by
  simp [isBlank, ne_of_isDigit hc ' ' rfl, ne_of_isDigit hc '\n' rfl,
    ne_of_isDigit hc '\t' rfl, ne_of_isDigit hc '\r' rfl]

theorem readValue_of_isDigit {c : Char} (h : c.isDigit = true) (fuel depth : Nat)
    (rest : List Char) :
    readValue (fuel + 1) depth (c :: rest) = Read.map .number (readNumber false (c :: rest)) := by
  rw [readValue, skipBlank_cons_of_not_isBlank (isBlank_of_isDigit h)]
  simp only [if_neg (ne_of_isDigit h 'n' rfl), if_neg (ne_of_isDigit h 't' rfl),
    if_neg (ne_of_isDigit h 'f' rfl), if_neg (ne_of_isDigit h '-' rfl), if_pos h]

theorem Number.toList_render_natural (n : Nat) :
    (Number.natural n).render.toList = Nat.toDigits 10 n := by
  rw [Number.render, Nat.toString_eq_ofList_toDigits, String.toList_ofList]

/-- The text of a whole number starts with a digit. -/
theorem exists_toDigits_eq_cons (n : Nat) :
    ∃ c cs, Nat.toDigits 10 n = c :: cs ∧ c.isDigit = true := by
  obtain ⟨c, cs, hcs⟩ := List.exists_cons_of_ne_nil (Nat.toDigits_ne_nil (n := n) (b := 10))
  refine ⟨c, cs, hcs, Nat.isDigit_of_mem_toDigits (b := 10) (n := n) (by omega) (by omega) ?_⟩
  rw [hcs]
  exact List.mem_cons_self

theorem readsBack_number {depth : Nat} {n : Number} (hrange : n.InRange) (hwhole : n.isWhole = true) :
    ReadsBack depth (.number n) := by
  cases n with
  | natural n =>
    obtain ⟨c, cs, hcs, hc⟩ := exists_toDigits_eq_cons n
    have hchars : compactChars (.number (.natural n)) = c :: cs := by
      rw [compactChars, Number.toList_render_natural, hcs]
    refine readsBack_of_succ (by simp [hchars]) fun fuel rest hrest => ?_
    rw [hchars, List.cons_append, readValue_of_isDigit hc, ← List.cons_append, ← hcs,
      readNumber_toDigits hrange hrest]
    rfl
  | negative n =>
    have hchars : compactChars (.number (.negative n)) = '-' :: Nat.toDigits 10 n := by
      rw [compactChars, Number.render, Nat.toString_eq_ofList_toDigits]
      simp
    refine readsBack_of_succ (by simp [hchars]) fun fuel rest hrest => ?_
    have hfits : n ≤ maxSignificand := Nat.le_trans hrange.2 (by decide)
    have hopen : readValue (fuel + 1) depth ('-' :: (Nat.toDigits 10 n ++ rest)) =
        Read.map .number (readNumber true (Nat.toDigits 10 n ++ rest)) := by
      rw [readValue]
      rfl
    have hvalue : wholeNumber true n rest = .ok (.negative n, rest) := by
      have hsize : 0 < n ∧ n ≤ Nat.pow 2 63 := hrange
      rw [wholeNumber, if_neg (by decide), if_pos hsize]
    rw [hchars, List.cons_append, hopen, readNumber_toDigits hfits hrest, hvalue]
    rfl
  | real x => cases hwhole

theorem readsBack_string {depth : Nat} (text : String) : ReadsBack depth (.string text) := by
  refine readsBack_of_succ (by simp [compactChars, quote]) fun fuel rest _ => ?_
  have hopen : ∀ tail, readValue (fuel + 1) depth ('"' :: tail) =
      Read.map (fun cs => .string (String.ofList cs)) (readText tail) := by
    intro tail
    rw [readValue]
    rfl
  rw [compactChars, quote_append, hopen, readText_flatMap_escape, Read.map, String.ofList_toList]

/-- **A readable value without floating-point numbers is read back from its text.** -/
theorem readValue_compactChars {depth : Nat} {value : Json} (h : Readable depth value)
    (hwhole : ∀ n ∈ value.numbers, n.isWhole = true) : ReadsBack depth value := by
  induction h with
  | null =>
    refine readsBack_of_succ (by simp [compactChars]) fun fuel rest _ => ?_
    rw [compactChars, readValue]
    rfl
  | boolean value =>
    refine readsBack_of_succ (by cases value <;> simp [compactChars]) fun fuel rest _ => ?_
    cases value <;> rw [compactChars, readValue] <;> rfl
  | number hrange => exact readsBack_number hrange (hwhole _ (by rw [numbers]; simp))
  | string text => exact readsBack_string text
  | array _ ih =>
    rw [numbers_array] at hwhole
    apply readsBack_array
    intro value hvalue
    exact ih value hvalue fun n hn => hwhole n (List.mem_flatMap.mpr ⟨value, hvalue, hn⟩)
  | object hnames _ ih =>
    rw [numbers_object] at hwhole
    apply readsBack_object hnames
    intro member hmember
    exact ih member hmember fun n hn => hwhole n (List.mem_flatMap.mpr ⟨member, hmember, hn⟩)

/-- A text that holds nothing but such a value is read as that value. -/
theorem parse_compact {value : Json} (h : Readable maxOpen value)
    (hwhole : ∀ n ∈ value.numbers, n.isWhole = true) : parse value.compact = .ok value := by
  have hread := readValue_compactChars h hwhole (fuelFor (compactChars value)) []
    (Nat.le_add_right _ _) endsNumber_nil
  rw [List.append_nil] at hread
  rw [parse, compact, String.toList_ofList, hread]
  rfl

end MessageCatalog.Json
