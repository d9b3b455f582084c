import MessageCatalog.Text.LiteralReader

/-!
# The grammar of string literals

A literal is given here by rules: between two quotes stand characters that have no meaning of their
own, escapes, and line ends that are skipped. Its reader goes through the characters one by one and
accepts exactly what the rules allow, so where a literal ends does not depend on what stands behind
it.

## Main definitions

* `Spells` — the spellings of a character inside a literal.
* `IsBody`, `IsLiteral` — what stands between the quotes of the literal of a text, and the literal.

## Main results

* `LiteralReader.read_of_isBody`: the reader accepts what the rules allow
* `LiteralReader.readsBodies`: the reader accepts nothing else
* `LiteralReader.decode_eq_some_iff`: it accepts exactly the literals
-/

namespace MessageCatalog.Text

open LiteralReader (simpleEscape? charOfCode?)

/-! ## The grammar -/

/-- Whether a character is skipped behind a backslash at the end of a line. -/
def IsLineBlank (c : Char) : Prop :=
  c = ' ' ∨ c = '\t' ∨ c = '\n' ∨ c = '\r'

/-- Digits of a code point with the number that they denote and how many they are: at most six.
Underscores may stand behind the first. -/
inductive IsCode : List Char → Nat → Nat → Prop where
  | nil : IsCode [] 0 0
  | digit {digits value count c digit} : IsCode digits value count → count < 6 →
      hexValue? c = some digit → IsCode (digits ++ [c]) (16 * value + digit) (count + 1)
  | underscore {digits value count} : IsCode digits value count → count ≠ 0 →
      IsCode (digits ++ ['_']) value count

/-- The spellings of a character inside a literal. -/
inductive Spells : List Char → Char → Prop where
  /-- The character itself. -/
  | plain {c} : c ≠ '"' → c ≠ '\\' → c ≠ '\r' → Spells [c] c
  /-- An escape of one letter. -/
  | letter {letter c} : simpleEscape? letter = some c → Spells ['\\', letter] c
  /-- Two digits, for a character of seven bits. -/
  | byte {c d high low} : hexValue? c = some high → high < 8 → hexValue? d = some low →
      Spells ['\\', 'x', c, d] (Char.ofNat (16 * high + low))
  /-- The digits of a code point. -/
  | code {digits value count c} : IsCode digits value count → count ≠ 0 →
      charOfCode? value = some c → Spells ('\\' :: 'u' :: '{' :: digits ++ ['}']) c

/-- What stands between the quotes of the literal of a text. -/
inductive IsBody : List Char → List Char → Prop where
  | nil : IsBody [] []
  | cons {spelling c body text} : Spells spelling c → IsBody body text →
      IsBody (spelling ++ body) (c :: text)
  /-- A backslash at the end of a line, with all the blank space behind it. -/
  | skip {blanks body text} : (∀ c ∈ blanks, IsLineBlank c) → (∀ c ∈ body.head?, ¬ IsLineBlank c) →
      IsBody body text → IsBody ('\\' :: '\n' :: blanks ++ body) text

/-- The literals of a text: from quote to quote. -/
def IsLiteral (literal text : List Char) : Prop :=
  ∃ body, literal = '"' :: body ++ ['"'] ∧ IsBody body text

namespace LiteralReader

/-! ## One step of the reader -/

section Step

variable (c : Char) (rest : List Char)

theorem read_plain : read .plain (c :: rest) =
    if c = '"' then some ([], rest)
    else if c = '\\' then read .escape rest
    else if c = '\r' then none
    else cons c (read .plain rest) := rfl

theorem read_escape : read .escape (c :: rest) =
    if c = 'u' then read .openBrace rest
    else if c = 'x' then read .highDigit rest
    else if c = '\n' then read .continued rest
    else match simpleEscape? c with
      | some d => cons d (read .plain rest)
      | none => none := rfl

theorem read_highDigit : read .highDigit (c :: rest) =
    match hexValue? c with
    | some high => if high < 8 then read (.lowDigit high) rest else none
    | none => none := rfl

theorem read_lowDigit (high : Nat) : read (.lowDigit high) (c :: rest) =
    match hexValue? c with
    | some low => cons (Char.ofNat (16 * high + low)) (read .plain rest)
    | none => none := rfl

theorem read_openBrace : read .openBrace (c :: rest) =
    if c = '{' then read (.code 0 0) rest else none := rfl

theorem read_digit (value count : Nat) : read (.code value count) (c :: rest) =
    if c = '}' then
      if count = 0 then none
      else match charOfCode? value with
        | some d => cons d (read .plain rest)
        | none => none
    else if c = '_' then
      if count = 0 then none else read (.code value count) rest
    else match hexValue? c with
      | some digit =>
        if count < 6 then read (.code (16 * value + digit) (count + 1)) rest else none
      | none => none := rfl

theorem read_continued : read .continued (c :: rest) =
    if c = ' ' ∨ c = '\t' ∨ c = '\n' ∨ c = '\r' then read .continued rest
    else if c = '"' then some ([], rest)
    else if c = '\\' then read .escape rest
    else cons c (read .plain rest) := rfl

/-- A backslash opens an escape. -/
theorem read_backslash : read .plain ('\\' :: rest) = read .escape rest := by
  rw [read_plain, if_neg (by decide), if_pos rfl]

end Step

/-! ## The reader accepts the grammar -/

/-- The digits of a code point are read one after the other. -/
theorem read_code {digits : List Char} {value count : Nat} (h : IsCode digits value count)
    (rest : List Char) : read (.code 0 0) (digits ++ rest) = read (.code value count) rest := by
  induction h generalizing rest with
  | nil => rfl
  | @digit digits value count c digit _ hcount hdigit ih =>
    -- neither the brace that ends the digits nor an underscore is a digit
    have hbrace : c ≠ '}' := by
      rintro rfl
      cases hdigit
    have hline : c ≠ '_' := by
      rintro rfl
      cases hdigit
    rw [List.append_assoc, ih, List.singleton_append, read_digit, if_neg hbrace, if_neg hline,
      hdigit]
    simp only [if_pos hcount]
  | underscore _ hcount ih =>
    rw [List.append_assoc, ih, List.singleton_append, read_digit, if_neg (by decide), if_pos rfl,
      if_neg hcount]

/-- A two-character escape is read as the character that its letter stands for. -/
theorem read_simpleEscape {letter c : Char} (h : simpleEscape? letter = some c)
    (rest : List Char) : read .plain ('\\' :: letter :: rest) = cons c (read .plain rest) := by
  -- the letters of the longer escapes stand for no character
  have hcode : letter ≠ 'u' := by
    rintro rfl
    cases h
  have hbyte : letter ≠ 'x' := by
    rintro rfl
    cases h
  have hline : letter ≠ '\n' := by
    rintro rfl
    cases h
  rw [read_backslash, read_escape, if_neg hcode, if_neg hbyte, if_neg hline, h]

/-- **Every spelling of a character is read as that character.** -/
theorem read_of_spells {spelling : List Char} {c : Char} (h : Spells spelling c)
    (rest : List Char) : read .plain (spelling ++ rest) = cons c (read .plain rest) := by
  cases h with
  | plain hquote hbackslash hreturn =>
    rw [List.singleton_append, read_plain, if_neg hquote, if_neg hbackslash, if_neg hreturn]
  | letter h => exact read_simpleEscape h rest
  | @byte c d high low hhigh hlt hlow =>
    -- the first digit is kept until the second one is read
    have hopen : read .plain ('\\' :: 'x' :: c :: d :: rest) =
        read .highDigit (c :: d :: rest) := by
      rw [read_backslash, read_escape, if_neg (by decide), if_pos rfl]
    have hfirst : read .highDigit (c :: d :: rest) = read (.lowDigit high) (d :: rest) := by
      rw [read_highDigit, hhigh]
      simp only [if_pos hlt]
    rw [List.cons_append, List.cons_append, List.cons_append, List.cons_append, List.nil_append,
      hopen, hfirst, read_lowDigit, hlow]
  | @code digits value count c hdigits hcount hvalue =>
    -- the brace opens the digits of the number nought
    have hopen : read .plain (('\\' :: 'u' :: '{' :: digits ++ ['}']) ++ rest) =
        read (.code 0 0) (digits ++ '}' :: rest) := by
      rw [List.append_assoc, List.cons_append, List.cons_append, List.cons_append, read_backslash,
        read_escape, if_pos rfl, read_openBrace, if_pos rfl, List.singleton_append]
    rw [hopen, read_code hdigits, read_digit, if_pos rfl, if_neg hcount, hvalue]

theorem read_continued_of_isLineBlank {c : Char} (h : IsLineBlank c) (rest : List Char) :
    read .continued (c :: rest) = read .continued rest := by
  rw [read_continued]
  exact if_pos h

/-- Behind the blank space the reader goes on as before it. -/
theorem read_continued_of_not_isLineBlank {c : Char} (h : ¬ IsLineBlank c) (rest : List Char) :
    read .continued (c :: rest) = read .plain (c :: rest) := by
  have hreturn : c ≠ '\r' := by
    intro hc
    exact h (.inr (.inr (.inr hc)))
  rw [read_continued, read_plain, if_neg hreturn]
  exact if_neg h

theorem read_continued_append {blanks rest : List Char} (hblanks : ∀ c ∈ blanks, IsLineBlank c)
    (hrest : ∀ c ∈ rest.head?, ¬ IsLineBlank c) :
    read .continued (blanks ++ rest) = read .plain rest := by
  induction blanks with
  | nil =>
    cases rest with
    | nil => rfl
    | cons c rest => exact read_continued_of_not_isLineBlank (hrest c rfl) rest
  | cons c blanks ih =>
    rw [List.cons_append, read_continued_of_isLineBlank (hblanks c List.mem_cons_self)]
    exact ih fun other hother => hblanks other (List.mem_cons_of_mem _ hother)

/-- **The reader accepts every body** up to the quote behind it. -/
theorem read_of_isBody {body text : List Char} (h : IsBody body text) (rest : List Char) :
    read .plain (body ++ '"' :: rest) = some (text, rest) := by
  induction h with
  | nil => rfl
  | cons hspelling _ ih =>
    rw [List.append_assoc, read_of_spells hspelling, ih]
    rfl
  | @skip blanks body text hblanks hbody _ ih =>
    have hopen : read .plain ('\\' :: '\n' :: blanks ++ body ++ '"' :: rest) =
        read .continued (blanks ++ (body ++ '"' :: rest)) := by
      rw [List.append_assoc, List.cons_append, List.cons_append, read_backslash, read_escape,
        if_neg (by decide), if_neg (by decide), if_pos rfl]
    rw [hopen, read_continued_append hblanks, ih]
    -- the quote behind an empty body is not skipped
    cases body with
    | nil => simp [IsLineBlank]
    | cons c body => simpa using hbody c rfl

/-! ## The grammar allows what the reader accepts -/

/-- What has been read since the last character was complete, when the reader expects something. -/
def Opened : Mode → List Char → Prop
  | .plain, front => front = []
  | .escape, front => front = ['\\']
  | .highDigit, front => front = ['\\', 'x']
  | .lowDigit high, front => ∃ c, hexValue? c = some high ∧ high < 8 ∧ front = ['\\', 'x', c]
  | .openBrace, front => front = ['\\', 'u']
  | .code value count, front =>
    ∃ digits, IsCode digits value count ∧ front = '\\' :: 'u' :: '{' :: digits
  | .continued, front =>
    ∃ blanks, (∀ c ∈ blanks, IsLineBlank c) ∧ front = '\\' :: '\n' :: blanks

/-- Whether some characters are a body, and behind it a quote and the rest. -/
def Closes (cs text rest : List Char) : Prop :=
  ∃ body, cs = body ++ '"' :: rest ∧ IsBody body text

theorem Closes.cons {spelling cs text rest : List Char} {c : Char} (hspelling : Spells spelling c)
    (h : Closes cs text rest) : Closes (spelling ++ cs) (c :: text) rest := by
  obtain ⟨body, rfl, hbody⟩ := h
  exact ⟨spelling ++ body, by simp, .cons hspelling hbody⟩

/-- Whatever the reader expects in front of some characters, it accepts only what goes on to a body
that a quote ends. -/
def ReadsBodies (cs rest : List Char) : Prop :=
  ∀ (mode : Mode) ⦃front text⦄, Opened mode front → read mode cs = some (text, rest) →
    Closes (front ++ cs) text rest

section Bodies

variable {c : Char} {cs text rest : List Char} (ih : ReadsBodies cs rest)

include ih

/-- A complete character is the first of what is left to read. -/
theorem closes_of_complete {spelling : List Char} {d : Char} (hspelling : Spells spelling d)
    (h : cons d (read .plain cs) = some (text, rest)) : Closes (spelling ++ cs) text rest := by
  obtain ⟨⟨tail, other⟩, hread, heq⟩ := Option.map_eq_some_iff.mp h
  obtain ⟨rfl, rfl⟩ := Prod.mk.inj heq
  exact (ih .plain rfl hread).cons hspelling

theorem closes_of_read_plain (h : read .plain (c :: cs) = some (text, rest)) :
    Closes (c :: cs) text rest := by
  -- the character ends the body, opens an escape, or stands for itself
  rw [read_plain] at h
  split at h
  · next hquote =>
    obtain ⟨rfl, rfl⟩ := Prod.mk.inj (Option.some.inj h)
    exact ⟨[], by rw [hquote, List.nil_append], .nil⟩
  next hquote =>
  split at h
  · next hbackslash =>
    rw [hbackslash]
    exact ih .escape rfl h
  next hbackslash =>
  split at h
  · cases h
  · next hreturn => exact closes_of_complete ih (.plain hquote hbackslash hreturn) h

theorem closes_of_read_escape (h : read .escape (c :: cs) = some (text, rest)) :
    Closes ('\\' :: c :: cs) text rest := by
  -- three letters open longer escapes, and every other one has to stand for a character
  rw [read_escape] at h
  split at h
  · next hcode =>
    rw [hcode]
    exact ih .openBrace rfl h
  split at h
  · next hbyte =>
    rw [hbyte]
    exact ih .highDigit rfl h
  split at h
  · next hline =>
    rw [hline]
    exact ih .continued ⟨[], by simp, rfl⟩ h
  split at h
  · next d hletter => exact closes_of_complete ih (.letter hletter) h
  · cases h

theorem closes_of_read_highDigit (h : read .highDigit (c :: cs) = some (text, rest)) :
    Closes ('\\' :: 'x' :: c :: cs) text rest := by
  rw [read_highDigit] at h
  split at h
  · next high hhigh =>
    split at h
    · next hlt => exact ih (.lowDigit high) ⟨c, hhigh, hlt, rfl⟩ h
    · cases h
  · cases h

theorem closes_of_read_lowDigit {high : Nat} {first : Char} (hhigh : hexValue? first = some high)
    (hlt : high < 8) (h : read (.lowDigit high) (c :: cs) = some (text, rest)) :
    Closes ('\\' :: 'x' :: first :: c :: cs) text rest := by
  rw [read_lowDigit] at h
  split at h
  · next low hlow => exact closes_of_complete ih (.byte hhigh hlt hlow) h
  · cases h

theorem closes_of_read_openBrace (h : read .openBrace (c :: cs) = some (text, rest)) :
    Closes ('\\' :: 'u' :: c :: cs) text rest := by
  rw [read_openBrace] at h
  split at h
  · next hbrace =>
    rw [hbrace]
    exact ih (.code 0 0) ⟨[], .nil, rfl⟩ h
  · cases h

theorem closes_of_read_code {digits : List Char} {value count : Nat}
    (hdigits : IsCode digits value count)
    (h : read (.code value count) (c :: cs) = some (text, rest)) :
    Closes ('\\' :: 'u' :: '{' :: digits ++ c :: cs) text rest := by
  -- the digits end, or go on with an underscore or a digit
  rw [List.append_cons]
  rw [read_digit] at h
  split at h
  · next hbrace =>
    split at h
    · cases h
    next hcount =>
    split at h
    · next d hvalue =>
      rw [hbrace]
      exact closes_of_complete ih (.code hdigits hcount hvalue) h
    · cases h
  split at h
  · next hline =>
    split at h
    · cases h
    next hcount =>
    rw [hline]
    exact ih (.code value count) ⟨digits ++ ['_'], .underscore hdigits hcount, rfl⟩ h
  split at h
  · next digit hdigit =>
    split at h
    · next hcount =>
      exact ih (.code _ _) ⟨digits ++ [c], .digit hdigits hcount hdigit, rfl⟩ h
    · cases h
  · cases h

theorem closes_of_read_continued {blanks : List Char} (hblanks : ∀ b ∈ blanks, IsLineBlank b)
    (h : read .continued (c :: cs) = some (text, rest)) :
    Closes ('\\' :: '\n' :: blanks ++ c :: cs) text rest := by
  by_cases hblank : IsLineBlank c
  · rw [read_continued_of_isLineBlank hblank] at h
    rw [List.append_cons]
    have hmore : ∀ b ∈ blanks ++ [c], IsLineBlank b := by
      intro b hb
      rcases List.mem_append.mp hb with hold | hnew
      · exact hblanks b hold
      · rwa [List.mem_singleton.mp hnew]
    exact ih .continued ⟨blanks ++ [c], hmore, rfl⟩ h
  · rw [read_continued_of_not_isLineBlank hblank] at h
    obtain ⟨body, hbody, hisBody⟩ := closes_of_read_plain ih h
    refine ⟨'\\' :: '\n' :: blanks ++ body, by rw [hbody, List.append_assoc],
      .skip hblanks ?_ hisBody⟩
    -- the body begins with the character that is no blank, if it is not empty
    rintro first hfirst
    obtain ⟨tail, rfl⟩ := List.head?_eq_some_iff.mp hfirst
    obtain ⟨rfl, -⟩ := List.cons_eq_cons.mp hbody
    exact hblank

end Bodies

/-- **The reader accepts only bodies** up to the quote behind them. -/
theorem readsBodies (cs rest : List Char) : ReadsBodies cs rest := by
  -- the modes are told apart for each character, so the induction is for all of them at once
  induction cs with
  | nil =>
    intro mode front text _ h
    cases mode <;> cases h
  | cons c cs ih =>
    intro mode front text hfront h
    cases mode with
    | plain =>
      obtain rfl : front = [] := hfront
      exact closes_of_read_plain ih h
    | escape =>
      obtain rfl : front = ['\\'] := hfront
      exact closes_of_read_escape ih h
    | highDigit =>
      obtain rfl : front = ['\\', 'x'] := hfront
      exact closes_of_read_highDigit ih h
    | lowDigit high =>
      obtain ⟨first, hhigh, hlt, rfl⟩ := hfront
      exact closes_of_read_lowDigit ih hhigh hlt h
    | openBrace =>
      obtain rfl : front = ['\\', 'u'] := hfront
      exact closes_of_read_openBrace ih h
    | code value count =>
      obtain ⟨digits, hdigits, rfl⟩ := hfront
      exact closes_of_read_code ih hdigits h
    | continued =>
      obtain ⟨blanks, hblanks, rfl⟩ := hfront
      exact closes_of_read_continued ih hblanks h

/-- **The reader accepts exactly the literals of the grammar**, whatever stands behind them. -/
theorem decode_eq_some_iff {cs text rest : List Char} :
    decode cs = some (text, rest) ↔ ∃ literal, cs = literal ++ rest ∧ IsLiteral literal text := by
  constructor
  · intro h
    cases cs with
    | nil => cases h
    | cons c cs =>
      rw [decode] at h
      split at h
      · next hquote =>
        obtain ⟨body, rfl, hbody⟩ := readsBodies cs rest .plain rfl h
        exact ⟨'"' :: body ++ ['"'], by simp [hquote], body, rfl, hbody⟩
      · cases h
  · rintro ⟨literal, rfl, body, rfl, hbody⟩
    have hopen : '"' :: body ++ ['"'] ++ rest = '"' :: (body ++ '"' :: rest) := by simp
    rw [hopen, decode, if_pos rfl, read_of_isBody hbody]

end LiteralReader

end MessageCatalog.Text
