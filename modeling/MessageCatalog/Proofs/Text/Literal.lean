import MessageCatalog.Proofs.Text.LiteralGrammar
import MessageCatalog.Text.Literal

/-!
# Literals are read back

Whatever characters a text holds, its literal is read as that text, and reading ends at the closing
quote of the literal. For this it does not matter which characters are written by their code points.
No control character stands in a literal as it is, so a literal stays on its line.

## Main definitions

* `literalBy` — the literal of a text when some characters are written by their code points.
* `readLiteral?` — reads the literal at the front of some characters.

## Main results

* `Literal.encodeCharBy_cases`: all spellings of a character
* `LiteralReader.decode_encode`: a literal with anything behind it is read as its text
* `Literal.le_of_mem_encode`: a literal holds no control character
* `isLiteral_literalBy`: a literal is one of the grammar, and it tells its text and what stands
  behind it
-/

namespace MessageCatalog.Text

open Unicode (isCombining isInvisible)

/-! ## Digits of a code point -/

theorem hexValue?_digitChar {d : Nat} (h : d < 16) : hexValue? (Nat.digitChar d) = some d := by
  revert d
  decide

theorem digitChar_of_mem_toDigits {n : Nat} {c : Char} (h : c ∈ Nat.toDigits 16 n) :
    ∃ d < 16, c = Nat.digitChar d := by
  induction n using Nat.strongRecOn with
  | ind n ih =>
    by_cases hn : n < 16
    · rw [Nat.toDigits_of_lt_base hn, List.mem_singleton] at h
      exact ⟨n, hn, h⟩
    · rw [Nat.toDigits_of_base_le (by omega) (by omega), List.mem_append, List.mem_singleton] at h
      rcases h with hleft | rfl
      · exact ih (n / 16) (by omega) hleft
      · exact ⟨n % 16, by omega, rfl⟩

/-- The digits of a number denote it. -/
theorem isCode_toDigits {code : Nat} (h : (Nat.toDigits 16 code).length ≤ 6) :
    IsCode (Nat.toDigits 16 code) code (Nat.toDigits 16 code).length := by
  -- the last digit stands behind the digits of the quotient
  induction code using Nat.strongRecOn with
  | ind code ih =>
    by_cases hcode : code < 16
    · have hdigit := IsCode.nil.digit (by omega) (hexValue?_digitChar hcode)
      rw [Nat.toDigits_of_lt_base hcode]
      simpa using hdigit
    · have hsplit := Nat.toDigits_of_base_le (b := 16) (n := code) (by omega) (by omega)
      rw [hsplit, List.length_append, List.length_singleton] at h ⊢
      have hquotient := ih (code / 16) (by omega) (by omega)
      have hdigit := hquotient.digit (by omega)
        (hexValue?_digitChar (d := code % 16) (by omega))
      rwa [Nat.div_add_mod] at hdigit

theorem charOfCode?_toNat (c : Char) : LiteralReader.charOfCode? c.toNat = some c := by
  have hvalid : c.toNat.isValidChar := c.valid
  rw [LiteralReader.charOfCode?, if_pos hvalid, Char.ofNat_toNat]

theorem length_toDigits_le (c : Char) : (Nat.toDigits 16 c.toNat).length ≤ 6 := by
  have hvalid : c.toNat.isValidChar := c.valid
  rw [Nat.length_toDigits_le_iff (by omega) (by omega)]
  rcases hvalid with h | h <;> omega

/-! ## The spellings of a character -/

namespace Literal

/-- The spelling of a character when some characters are written by their code points. -/
def encodeCharBy (byCode : Char → Bool) (c : Char) : List Char :=
  if c = '\x00' then ['\\', '0']
  else if c = '\t' then ['\\', 't']
  else if c = '\r' then ['\\', 'r']
  else if c = '\n' then ['\\', 'n']
  else if c = '\\' then ['\\', '\\']
  else if c = '"' then ['\\', '"']
  else if byCode c then codeEscape c
  else [c]

theorem encodeCharBy_eq_encodeChar :
    encodeCharBy (fun c => isCombining c || isInvisible c) = encodeChar := rfl

/-- **All spellings of a character**: two characters, its code point, or the character itself, which
then has no meaning of its own in a literal. -/
theorem encodeCharBy_cases (byCode : Char → Bool) (c : Char) :
    (∃ letter ∈ ['0', 't', 'r', 'n', '\\', '"'],
      LiteralReader.simpleEscape? letter = some c ∧ encodeCharBy byCode c = ['\\', letter]) ∨
    encodeCharBy byCode c = codeEscape c ∨
    (encodeCharBy byCode c = [c] ∧ c ∉ ['\x00', '\t', '\r', '\n', '\\', '"'] ∧
      byCode c = false) := by
  by_cases hnul : c = '\x00'
  · subst hnul
    exact Or.inl ⟨'0', by decide, rfl, rfl⟩
  by_cases htab : c = '\t'
  · subst htab
    exact Or.inl ⟨'t', by decide, rfl, rfl⟩
  by_cases hreturn : c = '\r'
  · subst hreturn
    exact Or.inl ⟨'r', by decide, rfl, rfl⟩
  by_cases hnewline : c = '\n'
  · subst hnewline
    exact Or.inl ⟨'n', by decide, rfl, rfl⟩
  by_cases hbackslash : c = '\\'
  · subst hbackslash
    exact Or.inl ⟨'\\', by decide, rfl, rfl⟩
  by_cases hquote : c = '"'
  · subst hquote
    exact Or.inl ⟨'"', by decide, rfl, rfl⟩
  have hlast : encodeCharBy byCode c = if byCode c then codeEscape c else [c] := by
    rw [encodeCharBy, if_neg hnul, if_neg htab, if_neg hreturn, if_neg hnewline, if_neg hbackslash,
      if_neg hquote]
  by_cases hcode : byCode c = true
  · exact Or.inr (Or.inl (hlast.trans (if_pos hcode)))
  · refine Or.inr (Or.inr ⟨hlast.trans (if_neg hcode), ?_, Bool.eq_false_iff.mpr hcode⟩)
    simp [hnul, htab, hreturn, hnewline, hbackslash, hquote]

theorem encodeChar_cases (c : Char) :
    (∃ letter ∈ ['0', 't', 'r', 'n', '\\', '"'],
      LiteralReader.simpleEscape? letter = some c ∧ encodeChar c = ['\\', letter]) ∨
    encodeChar c = codeEscape c ∨
    (encodeChar c = [c] ∧ c ≠ '"' ∧ isInvisible c = false) := by
  rw [← encodeCharBy_eq_encodeChar]
  refine (encodeCharBy_cases _ c).imp_right (Or.imp_right ?_)
  rintro ⟨hspelling, hplain, hvisible⟩
  exact ⟨hspelling, fun hquote => hplain (by simp [hquote]), (Bool.or_eq_false_iff.mp hvisible).2⟩

/-- The code point of a character spells it. -/
theorem spells_codeEscape (c : Char) : Spells (codeEscape c) c :=
  .code (isCode_toDigits (length_toDigits_le c)) (by simp [Nat.toDigits_ne_nil])
    (charOfCode?_toNat c)

/-- **The spelling of a character spells it.** -/
theorem spells_encodeCharBy (byCode : Char → Bool) (c : Char) :
    Spells (encodeCharBy byCode c) c := by
  rcases encodeCharBy_cases byCode c with
    ⟨letter, -, hletter, hspelling⟩ | hspelling | ⟨hspelling, hplain, -⟩
  · rw [hspelling]
    exact .letter hletter
  · rw [hspelling]
    exact spells_codeEscape c
  · simp only [List.mem_cons, List.not_mem_nil, not_or, or_false] at hplain
    obtain ⟨-, -, hreturn, -, hbackslash, hquote⟩ := hplain
    rw [hspelling]
    exact .plain hquote hbackslash hreturn

theorem isBody_flatMap (byCode : Char → Bool) (s : List Char) :
    IsBody (s.flatMap (encodeCharBy byCode)) s := by
  induction s with
  | nil => exact .nil
  | cons c s ih => exact .cons (spells_encodeCharBy byCode c) ih

end Literal

/-! ## Reading back -/

/-- The literal of a text when some characters are written by their code points. -/
def literalBy (byCode : Char → Bool) (s : String) : String :=
  String.ofList ('"' :: s.toList.flatMap (Literal.encodeCharBy byCode) ++ ['"'])

theorem literalBy_eq_literal :
    literalBy (fun c => isCombining c || isInvisible c) = literal := rfl

theorem isLiteral_toList_literalBy (byCode : Char → Bool) (s : String) :
    IsLiteral (literalBy byCode s).toList s.toList :=
  ⟨_, String.toList_ofList, Literal.isBody_flatMap byCode s.toList⟩

/-- **A literal is read as its text**, and reading ends behind its closing quote. -/
theorem LiteralReader.decode_encode (s rest : List Char) :
    decode (Literal.encode s ++ rest) = some (s, rest) :=
  decode_eq_some_iff.mpr ⟨Literal.encode s, rfl, _, rfl, Literal.isBody_flatMap _ s⟩

/-- Reads the literal at the front of some characters: its text, and what stands behind it. -/
def readLiteral? (cs : List Char) : Option (String × List Char) :=
  (LiteralReader.decode cs).map fun (text, rest) => (String.ofList text, rest)

/-- **Every literal of a text is read as that text**, whatever stands behind it. -/
theorem readLiteral?_of_isLiteral {literal : List Char} {s : String}
    (h : IsLiteral literal s.toList) (rest : List Char) :
    readLiteral? (literal ++ rest) = some (s, rest) := by
  rw [readLiteral?, LiteralReader.decode_eq_some_iff.mpr ⟨literal, rfl, h⟩]
  exact congrArg (fun text => some (text, rest)) String.ofList_toList

theorem readLiteral?_literal (s : String) (rest : List Char) :
    readLiteral? ((literal s).toList ++ rest) = some (s, rest) :=
  readLiteral?_of_isLiteral (isLiteral_toList_literalBy _ s) rest

/-! ## Controls -/

namespace Literal

theorem isInvisible_of_lt {c : Char} (h : c.toNat < 32) : isInvisible c = true := by
  -- the first range holds the controls below the space
  rw [isInvisible, Unicode.invisibleRanges, Unicode.CodeRanges.contains_cons, if_neg (by omega),
    if_pos (by omega)]

theorem le_digitChar {d : Nat} (h : d < 16) : 32 ≤ (Nat.digitChar d).toNat := by
  revert d
  decide

theorem le_of_mem_of_all {marks : List Char} (h : (marks.all fun c => 32 ≤ c.toNat) = true)
    {d : Char} (hd : d ∈ marks) : 32 ≤ d.toNat :=
  of_decide_eq_true (List.all_eq_true.mp h d hd)

theorem le_of_mem_codeEscape {c d : Char} (h : d ∈ codeEscape c) : 32 ≤ d.toNat := by
  rw [codeEscape, List.mem_append, List.mem_append] at h
  rcases h with (hopen | hdigit) | hclose
  · exact le_of_mem_of_all rfl hopen
  · obtain ⟨n, hn, rfl⟩ := digitChar_of_mem_toDigits hdigit
    exact le_digitChar hn
  · exact le_of_mem_of_all rfl hclose

theorem le_of_mem_encodeChar {c d : Char} (h : d ∈ encodeChar c) : 32 ≤ d.toNat := by
  rcases encodeChar_cases c with
    ⟨letter, hletter, -, hspelling⟩ | hspelling | ⟨hspelling, -, hvisible⟩
  · rw [hspelling, List.mem_cons, List.mem_singleton] at h
    rcases h with rfl | rfl
    · decide
    · exact le_of_mem_of_all rfl hletter
  · rw [hspelling] at h
    exact le_of_mem_codeEscape h
  · rw [hspelling, List.mem_singleton] at h
    rw [h]
    apply Nat.le_of_not_lt
    intro hlt
    rw [isInvisible_of_lt hlt] at hvisible
    cases hvisible

/-- **A literal holds no control character.** -/
theorem le_of_mem_encode {s : List Char} {d : Char} (h : d ∈ encode s) : 32 ≤ d.toNat := by
  have hquote : 32 ≤ '"'.toNat := by decide
  rw [encode, List.mem_append, List.mem_cons, encodeBody, List.mem_flatMap,
    List.mem_singleton] at h
  rcases h with (rfl | ⟨c, -, hd⟩) | rfl
  · exact hquote
  · exact le_of_mem_encodeChar hd
  · exact hquote

theorem newline_not_mem_encode (s : List Char) : '\n' ∉ encode s := by
  intro h
  exact absurd (le_of_mem_encode h) (by decide)

/-- Whether a character is no line end and not NUL. -/
def IsUnbroken (c : Char) : Prop :=
  c ≠ '\n' ∧ c ≠ '\r' ∧ c ≠ '\x00'

theorem isUnbroken_of_le {c : Char} (h : 32 ≤ c.toNat) : IsUnbroken c := by
  refine ⟨?_, ?_, ?_⟩ <;>
  · rintro rfl
    revert h
    decide

theorem isUnbroken_of_mem_encodeCharBy {byCode : Char → Bool} {c d : Char}
    (h : d ∈ encodeCharBy byCode c) : IsUnbroken d := by
  rcases encodeCharBy_cases byCode c with
    ⟨letter, hletter, -, hspelling⟩ | hspelling | ⟨hspelling, hplain, -⟩
  · rw [hspelling, List.mem_cons, List.mem_singleton] at h
    rcases h with rfl | rfl
    · exact isUnbroken_of_le (by decide)
    · exact isUnbroken_of_le (le_of_mem_of_all rfl hletter)
  · rw [hspelling] at h
    exact isUnbroken_of_le (le_of_mem_codeEscape h)
  · -- a tab would do no harm, but it is not written as it is either
    simp only [List.mem_cons, List.not_mem_nil, not_or, or_false] at hplain
    obtain ⟨hnul, -, hreturn, hnewline, -⟩ := hplain
    rw [hspelling, List.mem_singleton] at h
    rw [h]
    exact ⟨hnewline, hreturn, hnul⟩

end Literal

/-! ## Literals as tokens -/

theorem isUnbroken_of_mem_literalBy {byCode : Char → Bool} {s : String} {c : Char}
    (h : c ∈ (literalBy byCode s).toList) : Literal.IsUnbroken c := by
  rw [literalBy, String.toList_ofList, List.mem_append, List.mem_cons, List.mem_flatMap,
    List.mem_singleton] at h
  have hquote : Literal.IsUnbroken '"' := Literal.isUnbroken_of_le (by decide)
  rcases h with (rfl | ⟨d, -, hd⟩) | rfl
  · exact hquote
  · exact Literal.isUnbroken_of_mem_encodeCharBy hd
  · exact hquote

/-- **A literal tells its text and what stands behind it.** -/
theorem literalBy_append_inj {byCode : Char → Bool} {s other : String} {rest more : String}
    (h : literalBy byCode s ++ rest = literalBy byCode other ++ more) :
    s = other ∧ rest = more := by
  -- the same characters are read as both texts, and both times the rest is what stands behind
  have hread := readLiteral?_of_isLiteral (isLiteral_toList_literalBy byCode s) rest.toList
  have hother := readLiteral?_of_isLiteral (isLiteral_toList_literalBy byCode other) more.toList
  rw [← String.toList_append, h, String.toList_append, hother] at hread
  obtain ⟨rfl, hrest⟩ := Prod.mk.inj (Option.some.inj hread)
  exact ⟨rfl, (String.toList_injective hrest).symm⟩

/-- **The literal of a text is one token.** It is a literal of the grammar, so it begins and ends
with a quote, and every quote and backslash between them belongs to an escape. It holds no line end
and no NUL, and it is read as its text up to its last quote, whatever stands behind it. Two literals
with something behind them are the same only if their texts and what stands behind them are. All
this holds whichever characters are written by their code points. -/
theorem isLiteral_literalBy :
    literalBy (fun c => isCombining c || isInvisible c) = literal ∧
    ∀ (byCode : Char → Bool) (s : String),
      IsLiteral (literalBy byCode s).toList s.toList ∧
      (∀ c ∈ (literalBy byCode s).toList, c ≠ '\n' ∧ c ≠ '\r' ∧ c ≠ '\x00') ∧
      (∀ rest, readLiteral? ((literalBy byCode s).toList ++ rest) = some (s, rest)) ∧
      ∀ other rest more, literalBy byCode s ++ rest = literalBy byCode other ++ more →
        s = other ∧ rest = more := by
  refine ⟨literalBy_eq_literal, ?_⟩
  intro byCode s
  have hliteral := isLiteral_toList_literalBy byCode s
  refine ⟨hliteral, ?_, ?_, ?_⟩
  · intro c hc
    exact isUnbroken_of_mem_literalBy hc
  · intro rest
    exact readLiteral?_of_isLiteral hliteral rest
  · intro other rest more h
    exact literalBy_append_inj h

/-- A text with NUL in front of a digit, a character that is written by its code point in front of a
brace, and a quote, a backslash and a newline. -/
def escapedText : String :=
  "\x001\u0301\x7d\"\\\n"

/-- An escape with a digit or a brace behind it is not taken for a longer one. -/
theorem readLiteral?_literal_escapedText :
    literal escapedText = "\"\\01\\u\x7b301\x7d\x7d\\\"\\\\\\n\"" ∧
    readLiteral? ((literal escapedText).toList ++ "0\"".toList) =
      some (escapedText, "0\"".toList) ∧
    ∀ other more, literal escapedText ++ "0\"" = literal other ++ more →
      escapedText = other ∧ "0\"" = more := by
  obtain ⟨htable, hall⟩ := isLiteral_literalBy
  rw [← htable]
  obtain ⟨-, -, hread, hinj⟩ := hall (fun c => isCombining c || isInvisible c) escapedText
  exact ⟨by decide +kernel, hread _, fun other more => hinj other _ more⟩

end MessageCatalog.Text
