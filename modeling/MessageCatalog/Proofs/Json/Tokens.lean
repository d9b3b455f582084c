import Mathlib.Data.Nat.Digits.Lemmas
import MessageCatalog.Json.Reader
import MessageCatalog.Proofs.Text.Literal

/-!
# Texts and numbers are read back

A text is read back whatever stands behind its closing quote. A number has no mark at its end, so
what stands behind it must not go on with it. Only whole numbers are considered: a floating-point
number may be read as one next to it.

## Main definitions

* `Json.Number.isWhole`, `Json.Number.InRange` — whole numbers, and the numbers that a reader returns.
* `Json.EndsNumber` — some characters that no number goes on with.

## Main results

* `Json.escape_cases`: all spellings of a character in a text
* `Json.readText_flatMap_escape`: a text with anything behind it is read back
* `Json.readNumber_toDigits`: so is a whole number in range
* `Json.inRange_of_readNumber`: a number that is read is in range
-/

namespace MessageCatalog.Json

/-! ## Texts -/

/-- **All spellings of a character in a text**: two characters, the code unit of a control character,
or the character itself, which then neither ends the text nor opens an escape. -/
theorem escape_cases (c : Char) :
    (∃ letter, unescape? letter = some c ∧ escape c = ['\\', letter]) ∨
    (c.toNat < 0x20 ∧ escape c =
      ['\\', 'u', '0', '0', Nat.digitChar (c.toNat / 16), Nat.digitChar (c.toNat % 16)]) ∨
    (escape c = [c] ∧ c ≠ '"' ∧ c ≠ '\\' ∧ ¬ c.toNat < 0x20) := by
  by_cases hquote : c = '"'
  · exact Or.inl ⟨'"', by rw [hquote]; rfl, by rw [hquote]; rfl⟩
  by_cases hbackslash : c = '\\'
  · exact Or.inl ⟨'\\', by rw [hbackslash]; rfl, by rw [hbackslash]; rfl⟩
  by_cases hback : c = '\x08'
  · exact Or.inl ⟨'b', by rw [hback]; rfl, by rw [hback]; rfl⟩
  by_cases hfeed : c = '\x0c'
  · exact Or.inl ⟨'f', by rw [hfeed]; rfl, by rw [hfeed]; rfl⟩
  by_cases hnewline : c = '\n'
  · exact Or.inl ⟨'n', by rw [hnewline]; rfl, by rw [hnewline]; rfl⟩
  by_cases hreturn : c = '\r'
  · exact Or.inl ⟨'r', by rw [hreturn]; rfl, by rw [hreturn]; rfl⟩
  by_cases htab : c = '\t'
  · exact Or.inl ⟨'t', by rw [htab]; rfl, by rw [htab]; rfl⟩
  have hlast : escape c =
      if c.toNat < 0x20 then
        ['\\', 'u', '0', '0', Nat.digitChar (c.toNat / 16), Nat.digitChar (c.toNat % 16)]
      else [c] := by
    rw [escape, if_neg hquote, if_neg hbackslash, if_neg hback, if_neg hfeed, if_neg hnewline,
      if_neg hreturn, if_neg htab]
  by_cases hcontrol : c.toNat < 0x20
  · exact Or.inr (Or.inl ⟨hcontrol, hlast.trans (if_pos hcontrol)⟩)
  · exact Or.inr (Or.inr ⟨hlast.trans (if_neg hcontrol), hquote, hbackslash, hcontrol⟩)

theorem codeUnit?_control {n : Nat} (h : n < 0x20) :
    codeUnit? '0' '0' (Nat.digitChar (n / 16)) (Nat.digitChar (n % 16)) = some n := by
  have hzero : Text.hexValue? '0' = some 0 := rfl
  have hhigh : Text.hexValue? (Nat.digitChar (n / 16)) = some (n / 16) :=
    Text.hexValue?_digitChar (by omega)
  have hlow : Text.hexValue? (Nat.digitChar (n % 16)) = some (n % 16) :=
    Text.hexValue?_digitChar (by omega)
  have hvalue : ((0 * 16 + 0) * 16 + n / 16) * 16 + n % 16 = n := by omega
  simp only [codeUnit?, hzero, hhigh, hlow, Option.bind_eq_bind, Option.bind_some, hvalue]
  rfl

/-- A character is read back from its spelling. -/
theorem readText_escape (c : Char) (rest : List Char) :
    readText (escape c ++ rest) = consText c (readText rest) := by
  rcases escape_cases c with ⟨letter, hletter, hescape⟩ | ⟨hcontrol, hescape⟩ | ⟨hescape, hquote,
    hbackslash, hvisible⟩
  · have hunit : letter ≠ 'u' := by
      rintro rfl
      cases hletter
    rw [hescape, readText.eq_def]
    simp [hunit, hletter]
  · -- no control character is a surrogate
    have hlow : isLowSurrogate c.toNat = false := by
      simp [isLowSurrogate]
      omega
    have hhigh : isHighSurrogate c.toNat = false := by
      simp [isHighSurrogate]
      omega
    simp [hescape, readText, codeUnit?_control hcontrol, hlow, hhigh, Char.ofNat_toNat]
  · rw [hescape, List.singleton_append, readText.eq_def]
    simp [hquote, hbackslash, hvisible]

/-- **A text is read back** behind its opening quote, with anything behind its closing quote. -/
theorem readText_flatMap_escape (cs rest : List Char) :
    readText (cs.flatMap escape ++ '"' :: rest) = .ok (cs, rest) := by
  induction cs with
  | nil =>
    rw [List.flatMap_nil, List.nil_append, readText.eq_def]
    rfl
  | cons c cs ih =>
    rw [List.flatMap_cons, List.append_assoc, readText_escape, ih]
    rfl

theorem quote_append (text : String) (rest : List Char) :
    quote text ++ rest = '"' :: (text.toList.flatMap escape ++ '"' :: rest) := by
  simp [quote]

/-! ## Whole numbers -/

/-- Whether a number is no floating-point number. -/
def Number.isWhole : Number → Bool
  | .natural _ => true
  | .negative _ => true
  | .real _ => false

/-- A number that fits: whole numbers in the ranges of 64-bit words, and all floating-point
numbers. -/
def Number.InRange : Number → Prop
  | .natural n => n ≤ maxSignificand
  | .negative n => 0 < n ∧ n ≤ Nat.pow 2 63
  | .real _ => True

/-- Characters that no number goes on with. -/
def EndsNumber (rest : List Char) : Prop :=
  ∀ c tail, rest = c :: tail → c.isDigit = false ∧ c ≠ '.' ∧ c ≠ 'e' ∧ c ≠ 'E'

theorem endsNumber_nil : EndsNumber [] := by
  intro c tail h
  cases h

theorem endsNumber_cons {c : Char} {tail : List Char}
    (h : c.isDigit = false ∧ c ≠ '.' ∧ c ≠ 'e' ∧ c ≠ 'E') : EndsNumber (c :: tail) := by
  intro d rest hcons
  obtain ⟨rfl, rfl⟩ := List.cons.inj hcons
  exact h

theorem startsWithDigit_eq_false {rest : List Char} (h : EndsNumber rest) :
    startsWithDigit rest = false := by
  cases rest with
  | nil => rfl
  | cons c tail => exact (h c tail rfl).1

theorem le_ofDigitChars (cs : List Char) (significand : Nat) :
    significand ≤ Nat.ofDigitChars 10 cs significand := by
  rw [Nat.ofDigitChars_eq_ofDigitChars_zero]
  calc significand = 1 * significand := (Nat.one_mul significand).symm
    _ ≤ 10 ^ cs.length * significand :=
      Nat.mul_le_mul_right significand (Nat.one_le_pow _ _ (by omega))
    _ ≤ _ := Nat.le_add_right _ _

/-- Digits are gathered to their end as long as their value fits. -/
theorem gather_append {cs rest : List Char} (hdigits : ∀ c ∈ cs, c.isDigit = true)
    (hrest : startsWithDigit rest = false) (significand count : Nat)
    (hfits : Nat.ofDigitChars 10 cs significand ≤ maxSignificand) :
    gather significand count (cs ++ rest) =
      (Nat.ofDigitChars 10 cs significand, count + cs.length, rest) := by
  induction cs generalizing significand count with
  | nil =>
    rw [List.nil_append, Nat.ofDigitChars_nil, List.length_nil, Nat.add_zero]
    cases rest with
    | nil => rfl
    | cons c tail =>
      have hc : c.isDigit = false := hrest
      rw [gather, if_neg (by simp [hc])]
  | cons c cs ih =>
    have hstep : 10 * significand + (c.toNat - '0'.toNat) = significand * 10 + digitValue c := by
      rw [digitValue, Nat.mul_comm]
    rw [Nat.ofDigitChars_cons, hstep] at hfits ⊢
    -- what has been gathered so far is no more than what will be
    have hle : significand * 10 + digitValue c ≤ maxSignificand :=
      Nat.le_trans (le_ofDigitChars cs _) hfits
    rw [List.cons_append, gather, if_pos ⟨hdigits c List.mem_cons_self, hle⟩,
      ih (fun d hd => hdigits d (List.mem_cons_of_mem c hd)) _ _ hfits, List.length_cons]
    congr 2
    omega

theorem head?_toDigits_ne_zero {n : Nat} (h : 0 < n) : (Nat.toDigits 10 n).head? ≠ some '0' := by
  induction n using Nat.strongRecOn with
  | ind n ih =>
    by_cases hn : n < 10
    · rw [Nat.toDigits_of_lt_base hn, List.head?_cons]
      have hdigit : ∀ d < 10, 0 < d → Nat.digitChar d ≠ '0' := by decide
      intro heq
      exact hdigit n hn h (Option.some.inj heq)
    · rw [Nat.toDigits_of_base_le (by omega) (by omega),
        List.head?_append_of_ne_nil _ Nat.toDigits_ne_nil]
      exact ih (n / 10) (by omega) (by omega)

theorem readTail_of_endsNumber {rest : List Char} (h : EndsNumber rest) (negative : Bool)
    (significand : Nat) :
    readTail negative significand rest = wholeNumber negative significand rest := by
  cases rest with
  | nil => rfl
  | cons c tail =>
    obtain ⟨-, hpoint, he, hE⟩ := h c tail rfl
    rw [readTail, if_neg hpoint, if_neg (by simp [he, hE])]

/-- The digits of a whole number that fits are read as that number. -/
theorem readNumber_toDigits {n : Nat} (hn : n ≤ maxSignificand) {rest : List Char}
    (hrest : EndsNumber rest) (negative : Bool) :
    readNumber negative (Nat.toDigits 10 n ++ rest) = wholeNumber negative n rest := by
  have hends := startsWithDigit_eq_false hrest
  obtain ⟨c, cs, hcs⟩ := List.exists_cons_of_ne_nil (Nat.toDigits_ne_nil (n := n) (b := 10))
  have hdigits : ∀ d ∈ c :: cs, d.isDigit = true := by
    intro d hd
    rw [← hcs] at hd
    exact Nat.isDigit_of_mem_toDigits (by omega) (by omega) hd
  have hvalue : Nat.ofDigitChars 10 cs (digitValue c) = n := by
    have h := Nat.ofDigitChars_toDigits (b := 10) (n := n) (by omega) (by omega)
    rw [hcs, Nat.ofDigitChars_cons, Nat.mul_zero, Nat.zero_add] at h
    exact h
  rw [hcs, List.cons_append, readNumber]
  by_cases hzero : c = '0'
  · -- a number that starts with zero is zero
    have hn0 : n = 0 := by
      by_contra hne
      apply head?_toDigits_ne_zero (Nat.pos_of_ne_zero hne)
      rw [hcs, hzero, List.head?_cons]
    rw [hn0, Nat.toDigits_zero] at hcs
    obtain ⟨-, rfl⟩ := List.cons.inj hcs
    rw [if_pos hzero, List.nil_append, hends, hn0, readTail_of_endsNumber hrest]
    rfl
  · rw [if_neg hzero, if_pos (hdigits c List.mem_cons_self),
      gather_append (fun d hd => hdigits d (List.mem_cons_of_mem c hd)) hends _ _
        (by rw [hvalue]; exact hn), hvalue]
    simp only [hends, Bool.false_eq_true, if_false]
    exact readTail_of_endsNumber hrest negative n

/-! ## What a reader returns -/

section

variable {negative : Bool} {significand : Nat} {exponent : Int} {cs rest : List Char} {n : Number}

theorem inRange_of_realOf (h : realOf negative significand exponent cs = .ok (n, rest)) :
    n.InRange := by
  unfold realOf at h
  split at h
  · cases h
    trivial
  · cases h

theorem inRange_of_readExponent
    (h : readExponent negative significand exponent cs = .ok (n, rest)) : n.InRange := by
  unfold readExponent at h
  dsimp only at h
  split at h
  · cases h
  · split at h
    · split at h
      · exact inRange_of_realOf h
      · rw [ite_eq_iff] at h
        rcases h with ⟨-, h⟩ | ⟨-, h⟩
        · cases h
        · cases h
          trivial
    · cases h

theorem inRange_of_readScale (h : readScale negative significand exponent cs = .ok (n, rest)) :
    n.InRange := by
  unfold readScale at h
  split at h
  · split at h
    · exact inRange_of_readExponent h
    · exact inRange_of_realOf h
  · exact inRange_of_realOf h

theorem inRange_of_readFraction
    (h : readFraction negative significand exponent cs = .ok (n, rest)) : n.InRange := by
  unfold readFraction at h
  dsimp only at h
  split at h
  · exact inRange_of_readScale h
  · split at h
    · cases h
    · exact inRange_of_readScale h

theorem inRange_of_wholeNumber (hfits : significand ≤ maxSignificand)
    (h : wholeNumber negative significand cs = .ok (n, rest)) : n.InRange := by
  unfold wholeNumber at h
  split at h
  · cases h
    exact hfits
  · split at h
    · next hnegative =>
      cases h
      exact hnegative
    · exact inRange_of_realOf h

theorem inRange_of_readTail (hfits : significand ≤ maxSignificand)
    (h : readTail negative significand cs = .ok (n, rest)) : n.InRange := by
  unfold readTail at h
  split at h
  · split at h
    · exact inRange_of_readFraction h
    · split at h
      · exact inRange_of_readExponent h
      · exact inRange_of_wholeNumber hfits h
  · exact inRange_of_wholeNumber hfits h

theorem inRange_of_readLong (h : readLong negative significand cs = .ok (n, rest)) :
    n.InRange := by
  unfold readLong at h
  dsimp only at h
  split at h
  · split at h
    · exact inRange_of_readFraction h
    · exact inRange_of_readScale h
  · exact inRange_of_readScale h

theorem gather_le (hfits : significand ≤ maxSignificand) (count : Nat) (cs : List Char) :
    (gather significand count cs).1 ≤ maxSignificand := by
  induction cs generalizing significand count with
  | nil => exact hfits
  | cons c cs ih =>
    rw [gather]
    split
    · next hnext => exact ih hnext.2 (count + 1)
    · exact hfits

/-- **A number that is read is in range.** -/
theorem inRange_of_readNumber (h : readNumber negative cs = .ok (n, rest)) : n.InRange := by
  have hdigit : ∀ c : Char, c.isDigit = true → digitValue c ≤ maxSignificand := by
    intro c hc
    have hle : c.toNat ≤ 57 := by
      simp only [Char.isDigit, Bool.and_eq_true, decide_eq_true_eq] at hc
      exact hc.2
    have hmax : maxSignificand = 18446744073709551615 := rfl
    rw [digitValue, hmax]
    omega
  unfold readNumber at h
  split at h
  · cases h
  · split at h
    · split at h
      · cases h
      · exact inRange_of_readTail (Nat.zero_le _) h
    · split at h
      · next c tail _ hc =>
        have hle := gather_le (hdigit c hc) 0 tail
        dsimp only at h
        split at h
        · exact inRange_of_readLong h
        · exact inRange_of_readTail hle h
      · cases h

end

end MessageCatalog.Json
