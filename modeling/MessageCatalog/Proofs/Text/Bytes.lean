import MessageCatalog.Text.Bytes
import Mathlib.Data.List.Basic

/-!
# Reading bytes as texts

The bytes of a text are read as that text, and so every text is read from some bytes. A byte of its
own, as those of letters, digits and dots are, is never a part of another character. So what stands
in front of it is read as if nothing stood behind, whatever the bytes are.

## Main definitions

* `IsUtf8` — some bytes are those of a text.

## Main results

* `firstChar?_eq_some_iff`: which character some bytes start with
* `ofBytes_bytes`: the bytes of a text are read as that text
* `ofBytes_append_cons`: a byte of its own divides what is read
-/

namespace MessageCatalog.Text

/-- Some bytes are the UTF-8 bytes of a text. -/
def IsUtf8 (octets : List UInt8) : Prop :=
  ∃ text, bytes text = octets

/-! ## The bytes of a text -/

theorem bytes_eq_flatMap (s : String) : bytes s = s.toList.flatMap String.utf8EncodeChar := by
  rw [bytes, String.toUTF8_eq_toByteArray, ← String.utf8Encode_toList, List.utf8Encode,
    List.toList_data_toByteArray]

theorem bytes_append (s t : String) : bytes (s ++ t) = bytes s ++ bytes t := by
  rw [bytes_eq_flatMap, bytes_eq_flatMap, bytes_eq_flatMap, String.toList_append,
    List.flatMap_append]

/-- Behind the first byte of a character stand continuations only. -/
theorem le_of_mem_utf8EncodeChar {c : Char} {first byte : UInt8} {more : List UInt8}
    (h : String.utf8EncodeChar c = first :: more) (hmem : byte ∈ more) : 0x80 ≤ byte := by
  have hbyte : ∀ n, 0x80 ≤ UInt8.ofNat (n % 64 + 128) := by
    intro n
    rw [UInt8.le_iff_toNat_le, UInt8.toNat_ofNat']
    have hsmall : n % 64 + 128 < 2 ^ 8 := by omega
    rw [Nat.mod_eq_of_lt hsmall]
    exact Nat.le_add_left _ _
  rw [String.utf8EncodeChar] at h
  split at h
  · obtain ⟨-, rfl⟩ := List.cons.inj h
    cases hmem
  · split at h
    · obtain ⟨-, rfl⟩ := List.cons.inj h
      obtain rfl := List.mem_singleton.mp hmem
      exact hbyte _
    · split at h
      all_goals
        obtain ⟨-, rfl⟩ := List.cons.inj h
        simp only [List.mem_cons, List.not_mem_nil, or_false] at hmem
        rcases hmem with rfl | rfl | rfl
        all_goals exact hbyte _

/-! ## The first character -/

/-- **Some bytes start with a character exactly if its bytes stand in front.** -/
theorem firstChar?_eq_some_iff {octets : List UInt8} {c : Char} :
    firstChar? octets = some c ↔ ∃ rest, octets = String.utf8EncodeChar c ++ rest := by
  constructor
  · intro h
    obtain ⟨rest, hrest⟩ := ByteArray.exists_of_utf8DecodeChar?_eq_some h
    refine ⟨rest.data.toList, ?_⟩
    have hdata := congrArg (fun array => array.data.toList) hrest
    simpa using hdata
  · rintro ⟨rest, rfl⟩
    rw [firstChar?, List.toByteArray_append]
    exact ByteArray.utf8DecodeChar?_utf8EncodeChar_append

theorem utf8Size_sub_one_le {first : UInt8} {front : List UInt8} {c : Char}
    (h : firstChar? (first :: front) = some c) : c.utf8Size - 1 ≤ front.length := by
  obtain ⟨rest, hrest⟩ := firstChar?_eq_some_iff.mp h
  have hlength := congrArg List.length hrest
  rw [List.length_cons, List.length_append, String.length_utf8EncodeChar] at hlength
  omega

theorem stumpLength_le (first : UInt8) (front : List UInt8) :
    stumpLength first front ≤ front.length := by
  unfold stumpLength
  repeat' split
  all_goals simp

/-! ## Reading on -/

theorem charsFrom_eq_drop (skipped : Nat) (octets : List UInt8) :
    charsFrom skipped octets = charsFrom 0 (octets.drop skipped) := by
  induction octets generalizing skipped with
  | nil => rw [List.drop_nil, charsFrom_nil, charsFrom_nil]
  | cons byte rest ih =>
    cases skipped with
    | zero => rfl
    | succ skipped => rw [charsFrom, List.drop_succ_cons, ih]

theorem charsFrom_utf8EncodeChar_append (c : Char) (rest : List UInt8) :
    charsFrom 0 (String.utf8EncodeChar c ++ rest) = c :: charsFrom 0 rest := by
  obtain ⟨first, more, hmore⟩ := List.exists_cons_of_ne_nil (String.utf8EncodeChar_ne_nil (c := c))
  have hchar : firstChar? (first :: (more ++ rest)) = some c := by
    rw [← List.cons_append, ← hmore]
    exact firstChar?_eq_some_iff.mpr ⟨rest, rfl⟩
  have hlength : c.utf8Size - 1 = more.length := by
    rw [← String.length_utf8EncodeChar, hmore, List.length_cons, Nat.add_sub_cancel]
  rw [hmore, List.cons_append, charsFrom_of_firstChar?_eq_some hchar, charsFrom_eq_drop, hlength,
    List.drop_left]

/-! ## Texts are read back -/

/-- **What stands behind a text is read as if the text did not stand there.** -/
theorem charsFrom_bytes_append (s : String) (rest : List UInt8) :
    charsFrom 0 (bytes s ++ rest) = s.toList ++ charsFrom 0 rest := by
  rw [bytes_eq_flatMap]
  induction s.toList with
  | nil => rfl
  | cons c cs ih =>
    rw [List.flatMap_cons, List.append_assoc, charsFrom_utf8EncodeChar_append, ih, List.cons_append]

theorem ofBytes_bytes_append (s : String) (rest : List UInt8) :
    ofBytes (bytes s ++ rest) = s ++ ofBytes rest := by
  rw [ofBytes, charsFrom_bytes_append, String.ofList_append, String.ofList_toList, ofBytes]

/-- **The bytes of a text are read as that text.** -/
@[simp] theorem ofBytes_bytes (s : String) : ofBytes (bytes s) = s := by
  have h := ofBytes_bytes_append s []
  rwa [List.append_nil, ofBytes_nil, String.append_empty] at h

/-- Bytes are those of a text exactly if they are those of the text that they are read as. -/
theorem isUtf8_iff {octets : List UInt8} : IsUtf8 octets ↔ bytes (ofBytes octets) = octets := by
  constructor
  · rintro ⟨text, rfl⟩
    rw [ofBytes_bytes]
  · intro h
    exact ⟨_, h⟩

instance : DecidablePred IsUtf8 :=
  fun _ => decidable_of_iff _ isUtf8_iff.symm

theorem bytes_injective : Function.Injective bytes :=
  Function.LeftInverse.injective ofBytes_bytes

theorem ofBytes_eq_empty_iff {octets : List UInt8} : ofBytes octets = "" ↔ octets = [] := by
  constructor
  · intro h
    cases octets with
    | nil => rfl
    | cons byte rest =>
      rw [ofBytes, String.ofList_eq_empty_iff] at h
      cases hchar : firstChar? (byte :: rest) with
      | none => simp [charsFrom_of_firstChar?_eq_none hchar] at h
      | some c => simp [charsFrom_of_firstChar?_eq_some hchar] at h
  · rintro rfl
    rfl

/-! ## Bytes of their own -/

section Divided

variable {byte : UInt8} (hbyte : byte < 0x80)

include hbyte

theorem isContinuation_of_lt : isContinuation byte = false := by
  rw [isContinuation, Bool.and_eq_false_iff]
  left
  exact decide_eq_false (UInt8.not_le.mpr hbyte)

theorem canFollow_of_lt (first : UInt8) : canFollow first byte = false := by
  have hsmall : ∀ {least : UInt8}, 0x80 ≤ least → decide (least ≤ byte) = false :=
    fun h => decide_eq_false (UInt8.not_le.mpr (UInt8.lt_of_lt_of_le hbyte h))
  rw [canFollow, isContinuation_of_lt hbyte, hsmall (by decide), hsmall (by decide),
    hsmall (by decide)]
  simp

theorem stumpLength_append_cons (first : UInt8) (front rest : List UInt8) :
    stumpLength first (front ++ byte :: rest) = stumpLength first front := by
  match front with
  | [] => cases rest <;> simp [stumpLength, canFollow_of_lt hbyte]
  | [second] => simp [stumpLength, isContinuation_of_lt hbyte]
  | _ :: _ :: _ => rfl

/-- A byte of its own does not end the character that starts in front of it. -/
theorem firstChar?_append_cons (first : UInt8) (front rest : List UInt8) :
    firstChar? (first :: (front ++ byte :: rest)) = firstChar? (first :: front) := by
  rw [← List.cons_append]
  ext c
  rw [firstChar?_eq_some_iff, firstChar?_eq_some_iff]
  constructor
  · rintro ⟨behind, hbehind⟩
    rcases List.append_eq_append_iff.mp hbehind with ⟨within, hchar, hrest⟩ | ⟨more, hmore, -⟩
    · cases within with
      | nil => exact ⟨[], by rw [hchar, List.append_nil, List.append_nil]⟩
      | cons other within =>
        -- the byte would stand behind the first one of the character
        obtain ⟨rfl, -⟩ := List.cons.inj hrest
        have hle : 0x80 ≤ byte := le_of_mem_utf8EncodeChar hchar (by simp)
        exact absurd hle (UInt8.not_le.mpr hbyte)
    · exact ⟨more, hmore⟩
  · rintro ⟨behind, hbehind⟩
    exact ⟨behind ++ byte :: rest, by rw [hbehind, List.append_assoc]⟩

/-- Where a byte of its own is not skipped, the reading starts afresh at it. -/
theorem charsFrom_append_cons {skipped : Nat} {front : List UInt8}
    (hskipped : skipped ≤ front.length) (rest : List UInt8) :
    charsFrom skipped (front ++ byte :: rest) =
      charsFrom skipped front ++ charsFrom 0 (byte :: rest) := by
  induction front generalizing skipped with
  | nil =>
    obtain rfl := Nat.le_zero.mp hskipped
    rfl
  | cons first front ih =>
    cases skipped with
    | succ skipped =>
      rw [List.cons_append, charsFrom, charsFrom]
      exact ih (Nat.le_of_succ_le_succ hskipped)
    | zero =>
      have hfirst := firstChar?_append_cons hbyte first front rest
      -- neither a character nor a stump reaches up to the byte
      cases hchar : firstChar? (first :: front) with
      | none =>
        rw [hchar] at hfirst
        rw [List.cons_append, charsFrom_of_firstChar?_eq_none hfirst,
          charsFrom_of_firstChar?_eq_none hchar, stumpLength_append_cons hbyte,
          ih (stumpLength_le first front), List.cons_append]
      | some c =>
        rw [hchar] at hfirst
        rw [List.cons_append, charsFrom_of_firstChar?_eq_some hfirst,
          charsFrom_of_firstChar?_eq_some hchar, ih (utf8Size_sub_one_le hchar), List.cons_append]

/-- **A byte of its own divides what is read.** -/
theorem ofBytes_append_cons (front rest : List UInt8) :
    ofBytes (front ++ byte :: rest) = ofBytes front ++ ofBytes (byte :: rest) := by
  rw [ofBytes, charsFrom_append_cons hbyte (Nat.zero_le _), String.ofList_append, ofBytes, ofBytes]

end Divided

-- two characters that break off, with a dot between them, and a half of a pair of units
example : ofBytes [0xE0, 0xA0, 0x2E, 0xF0, 0x9F, 0x98, 0xED, 0xA0] =
    "\uFFFD.\uFFFD\uFFFD\uFFFD" := by
  decide +kernel

end MessageCatalog.Text
