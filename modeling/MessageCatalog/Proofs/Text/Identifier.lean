import MessageCatalog.Proofs.Text.Lines
import MessageCatalog.Text.Identifier

/-!
# Tokens of identifiers

A keyword can be used as a name only behind a raw mark, and some keywords not even there. The names
that can be declared are those for which such a token is written, and the token tells the name.

The tables of characters that start a word or go on with it are the ones that names are checked
with. Two rules of the language go beyond them and are not said here: the joiners U+200C and U+200D
stand in no word, though they go on with one in the tables, and two words are one name if they have
the same normal form C. So a token here can hold a joiner, and tokens are compared as texts.

## Main definitions

* `IsIdentifierToken` — the tokens that stand for identifiers.
* `readIdentifier?` — reads the token at the front of some characters.
* `bareName` — the name that a token stands for.

## Main results

* `not_mem_of_isWord`: a word holds only characters that can stand in it
* `isIdentifierToken_renderIdentifier`: the spelling of a name is a token
* `readIdentifier?_renderIdentifier`: the spelling of a name is read back as a token
* `bareName_renderIdentifier`: the token that is written for a name stands for it
-/

namespace MessageCatalog.Text

open Unicode (isIdentifierStart isIdentifierContinue)

/-! ## The language of tokens -/

/-- The keywords that have a meaning. -/
def strictKeywords : List String :=
  ["as", "async", "await", "break", "const", "continue", "crate", "dyn", "else", "enum", "extern",
    "false", "fn", "for", "if", "impl", "in", "let", "loop", "match", "mod", "move", "mut", "pub",
    "ref", "return", "self", "Self", "static", "struct", "super", "trait", "true", "type", "unsafe",
    "use", "where", "while"]

/-- The keywords that are kept for a later meaning. -/
def reservedKeywords : List String :=
  ["abstract", "become", "box", "do", "final", "gen", "macro", "override", "priv", "try", "typeof",
    "unsized", "virtual", "yield"]

/-- All keywords. -/
def keywords : List String :=
  strictKeywords ++ reservedKeywords

/-- The keywords that stay keywords behind a raw mark. -/
def unmarkedKeywords : List String :=
  ["crate", "self", "super", "Self"]

/-- What stands in front of a keyword that is used as a name. -/
def rawMark : String :=
  "r#"

/-- The words of the language, up to its ban on joiners: a start character or an underscore and then
continuing characters, but no underscore alone. -/
inductive IsTokenWord : List Char → Prop where
  | start {c : Char} {rest : List Char} : isIdentifierStart c = true →
      (∀ d ∈ rest, isIdentifierContinue d = true) → IsTokenWord (c :: rest)
  | underscore {rest : List Char} : rest ≠ [] →
      (∀ d ∈ rest, isIdentifierContinue d = true) → IsTokenWord ('_' :: rest)

/-- The tokens that stand for identifiers: a word that is no keyword, or a marked keyword. -/
inductive IsIdentifierToken : String → Prop where
  | plain {name : String} : IsTokenWord name.toList → name ∉ keywords → IsIdentifierToken name
  | raw {name : String} : name ∈ keywords → name ∉ unmarkedKeywords →
      IsIdentifierToken (rawMark ++ name)

/-! ## Words -/

/-- **A word holds only characters that can stand in it.** -/
theorem not_mem_of_isWord {cs : List Char} (h : isWord cs = true) {c : Char}
    (hc : (c == '_' || isIdentifierStart c || isIdentifierContinue c) = false) : c ∉ cs := by
  rw [Bool.or_eq_false_iff] at hc
  obtain ⟨hstart, hcontinue⟩ := hc
  cases cs with
  | nil => exact List.not_mem_nil
  | cons first rest =>
    rw [isWord, Bool.and_eq_true, List.all_eq_true] at h
    obtain ⟨hfirst, hrest⟩ := h
    intro hmem
    rcases List.mem_cons.mp hmem with rfl | hmem
    · rw [hstart] at hfirst
      cases hfirst
    · rw [hrest c hmem] at hcontinue
      cases hcontinue

theorem isWord_of_isIdentifier {name : String} (h : isIdentifier name = true) :
    isWord name.toList = true := by
  simp only [isIdentifier, Bool.and_eq_true] at h
  exact h.1.1

/-- Identifiers hold no dots. -/
theorem dot_not_mem_of_isIdentifier {name : String} (h : isIdentifier name = true) :
    '.' ∉ name.toList :=
  not_mem_of_isWord (isWord_of_isIdentifier h) (by decide +kernel)

/-- The shape of a word as it is checked; the underscore by itself is none. -/
theorem isTokenWord_iff (cs : List Char) : IsTokenWord cs ↔ isWord cs = true ∧ cs ≠ ['_'] := by
  constructor
  · intro h
    cases h with
    | start hstart hrest =>
      constructor
      · rw [isWord, hstart, Bool.or_true, Bool.true_and, List.all_eq_true]
        exact hrest
      · -- the underscore starts no word by itself
        intro hline
        obtain ⟨rfl, -⟩ := List.cons.inj hline
        exact absurd hstart (by decide +kernel)
    | underscore hne hrest =>
      constructor
      · rw [isWord, List.all_eq_true.mpr hrest]
        rfl
      · intro hline
        exact hne (List.cons.inj hline).2
  · rintro ⟨hword, hline⟩
    cases cs with
    | nil => cases hword
    | cons c rest =>
      simp only [isWord, Bool.and_eq_true, Bool.or_eq_true, beq_iff_eq, List.all_eq_true] at hword
      obtain ⟨rfl | hstart, hrest⟩ := hword
      · refine IsTokenWord.underscore ?_ hrest
        rintro rfl
        exact hline rfl
      · exact IsTokenWord.start hstart hrest

theorem isTokenWord_of_isIdentifier {name : String} (h : isIdentifier name = true) :
    IsTokenWord name.toList := by
  refine (isTokenWord_iff _).mpr ⟨isWord_of_isIdentifier h, fun hsame => ?_⟩
  have hline : name = "_" := by
    rw [← String.ofList_toList (s := name), hsame]
  simp [isIdentifier, hline] at h

/-! ## The spelling of a name is a token -/

/-- The keywords that are marked are keywords, and the mark takes their meaning away. -/
theorem mem_keywords_of_mem_rawKeywords :
    ∀ name ∈ rawKeywords, name ∈ keywords ∧ name ∉ unmarkedKeywords := by
  decide +kernel

/-- Every keyword is marked or no name at all. -/
theorem mem_rawKeywords_or_pathKeywords :
    ∀ name ∈ keywords, name ∈ rawKeywords ∨ name ∈ pathKeywords := by
  decide +kernel

/-- **The spelling of a name is a token.** -/
theorem isIdentifierToken_renderIdentifier {name : String} (h : isIdentifier name = true) :
    IsIdentifierToken (renderIdentifier name) := by
  by_cases hraw : name ∈ rawKeywords
  · obtain ⟨hkeyword, hmarked⟩ := mem_keywords_of_mem_rawKeywords name hraw
    rw [renderIdentifier_of_mem hraw]
    exact IsIdentifierToken.raw hkeyword hmarked
  · rw [renderIdentifier_of_not_mem hraw]
    refine IsIdentifierToken.plain (isTokenWord_of_isIdentifier h) ?_
    intro hkeyword
    rcases mem_rawKeywords_or_pathKeywords name hkeyword with hmem | hmem
    · exact hraw hmem
    · simp [isIdentifier, hmem] at h

/-! ## Reading back -/

/-- The word at the front of some characters, and what stands behind it. -/
def readWord? : List Char → Option (List Char × List Char)
  | [] => none
  | c :: rest =>
    if c = '_' ∨ isIdentifierStart c = true then
      some (c :: rest.takeWhile isIdentifierContinue, rest.dropWhile isIdentifierContinue)
    else none

/-- Reads the token at the front of some characters, and what stands behind it. -/
def readIdentifier? (cs : List Char) : Option (String × List Char) :=
  match cs.dropPrefix? rawMark.toList with
  | some marked => (readWord? marked).map fun (word, rest) => (rawMark ++ String.ofList word, rest)
  | none => (readWord? cs).map fun (word, rest) => (String.ofList word, rest)

/-- The name that a token stands for. -/
def bareName (token : String) : String :=
  match token.toList.dropPrefix? rawMark.toList with
  | some name => String.ofList name
  | none => token

theorem readWord?_append {word rest : List Char} (h : isWord word = true) {c : Char}
    (hrest : rest.head? = some c) (hc : isIdentifierContinue c = false) :
    readWord? (word ++ rest) = some (word, rest) := by
  obtain ⟨behind, rfl⟩ := List.head?_eq_some_iff.mp hrest
  cases word with
  | nil => cases h
  | cons first word =>
    simp only [isWord, Bool.and_eq_true, Bool.or_eq_true, beq_iff_eq, List.all_eq_true] at h
    obtain ⟨hfirst, hword⟩ := h
    -- the word ends where a character cannot continue it
    have hstop : ¬ isIdentifierContinue c = true := by simp [hc]
    rw [List.cons_append, readWord?, if_pos hfirst, List.takeWhile_append_of_pos hword,
      List.dropWhile_append_of_pos hword, List.takeWhile_cons_of_neg hstop,
      List.dropWhile_cons_of_neg hstop, List.append_nil]

/-- Without its second character there is no raw mark. -/
theorem dropPrefix?_rawMark_cons {first : Char} {rest : List Char} (h : rest.head? ≠ some '#') :
    (first :: rest).dropPrefix? rawMark.toList = none := by
  cases hdrop : (first :: rest).dropPrefix? rawMark.toList with
  | none => rfl
  | some marked =>
    obtain ⟨front, hsplit, hfront⟩ := List.dropPrefix?_eq_some_iff.mp hdrop
    obtain rfl : front = ['r', '#'] := eq_of_beq hfront
    obtain ⟨-, rfl⟩ := List.cons.inj hsplit
    exact absurd rfl h

theorem exists_toList_eq_cons {name : String} (h : isIdentifier name = true) :
    ∃ first rest, name.toList = first :: rest ∧ rest.head? ≠ some '#' := by
  have hword := isWord_of_isIdentifier h
  have hhash : '#' ∉ name.toList := not_mem_of_isWord hword (by decide +kernel)
  cases hcs : name.toList with
  | nil => simp [hcs] at hword
  | cons first rest =>
    rw [hcs] at hhash
    refine ⟨first, rest, rfl, ?_⟩
    intro hhead
    exact hhash (List.mem_cons_of_mem _ (List.mem_of_mem_head? hhead))

/-- **The spelling of a name is read back as a token**, and reading ends behind the name. -/
theorem readIdentifier?_renderIdentifier {name : String} (h : isIdentifier name = true)
    {rest : List Char} {c : Char} (hrest : rest.head? = some c)
    (hc : isIdentifierContinue c = false) (hhash : c ≠ '#') :
    readIdentifier? ((renderIdentifier name).toList ++ rest) =
      some (renderIdentifier name, rest) := by
  have hread := readWord?_append (isWord_of_isIdentifier h) hrest hc
  by_cases hraw : name ∈ rawKeywords
  · have hmarked : (renderIdentifier name).toList ++ rest =
        rawMark.toList ++ (name.toList ++ rest) := by
      rw [renderIdentifier_of_mem hraw, String.toList_append, List.append_assoc]
      rfl
    rw [readIdentifier?, hmarked, dropPrefix?_append]
    simp only [hread, Option.map_some, String.ofList_toList, renderIdentifier_of_mem hraw]
    rfl
  · have hnone : (name.toList ++ rest).dropPrefix? rawMark.toList = none := by
      obtain ⟨first, tail, hcs, htail⟩ := exists_toList_eq_cons h
      rw [hcs, List.cons_append]
      apply dropPrefix?_rawMark_cons
      rw [List.head?_append, hrest]
      cases hhead : tail.head? with
      | none => simpa using hhash
      | some d => simpa [hhead] using htail
    rw [renderIdentifier_of_not_mem hraw, readIdentifier?, hnone]
    simp only [hread, Option.map_some, String.ofList_toList]

/-- **The token that is written for a name stands for it.** -/
theorem bareName_renderIdentifier {name : String} (h : isIdentifier name = true) :
    bareName (renderIdentifier name) = name := by
  by_cases hraw : name ∈ rawKeywords
  · have hmarked : (renderIdentifier name).toList = rawMark.toList ++ name.toList := by
      rw [renderIdentifier_of_mem hraw, String.toList_append]
      rfl
    rw [bareName, hmarked, dropPrefix?_append]
    exact String.ofList_toList
  · have hnone : name.toList.dropPrefix? rawMark.toList = none := by
      obtain ⟨first, tail, hcs, htail⟩ := exists_toList_eq_cons h
      rw [hcs]
      exact dropPrefix?_rawMark_cons htail
    rw [renderIdentifier_of_not_mem hraw, bareName, hnone]

/-- The spelling of a name stays on its line. -/
theorem newline_not_mem_renderIdentifier {name : String} (h : isIdentifier name = true) :
    '\n' ∉ (renderIdentifier name).toList := by
  have hname : '\n' ∉ name.toList :=
    not_mem_of_isWord (isWord_of_isIdentifier h) (by decide +kernel)
  by_cases hraw : name ∈ rawKeywords
  · rw [renderIdentifier_of_mem hraw, String.toList_append, List.mem_append, not_or]
    exact ⟨by decide, hname⟩
  · rwa [renderIdentifier_of_not_mem hraw]

end MessageCatalog.Text
