import MessageCatalog.Proofs.Text.Bytes

/-!
# The order of texts and of their bytes

Texts are compared character by character. Their UTF-8 bytes are in the same order, since the bytes
of the greater of two characters are greater at the first place where they differ, and so differ
before the shorter of them ends.

## Main results

* `utf8EncodeChar_append_lt`: the bytes of a greater character are greater, whatever follows
* `lt_iff_bytes_lt`: texts are in the order of their bytes
-/

namespace MessageCatalog.Text

/-! ## Bytes of characters -/

/-- Lists of bytes are compared at the first byte, or behind it if the first bytes are the same. -/
theorem cons_ofNat_lt_cons_ofNat {a b : Nat} {s t : List UInt8} (hb : b < 256) (hle : a ≤ b)
    (h : a = b → s < t) : UInt8.ofNat a :: s < UInt8.ofNat b :: t := by
  rw [List.cons_lt_cons_iff]
  rcases Nat.lt_or_eq_of_le hle with hlt | heq
  · left
    rwa [UInt8.lt_iff_toNat_lt, UInt8.toNat_ofNat', UInt8.toNat_ofNat',
      Nat.mod_eq_of_lt (Nat.lt_of_le_of_lt hle hb), Nat.mod_eq_of_lt hb]
  · right
    exact ⟨congrArg UInt8.ofNat heq, h heq⟩

/-- **The bytes of a greater character are greater**, whatever follows them. -/
theorem utf8EncodeChar_append_lt {c d : Char} (h : c < d) (s t : List UInt8) :
    String.utf8EncodeChar c ++ s < String.utf8EncodeChar d ++ t := by
  have hlt : c.val.toNat < d.val.toNat := h
  have hbound : d.val.toNat < 1114112 := by
    have hvalid := d.valid
    rw [UInt32.isValidChar, Nat.isValidChar] at hvalid
    omega
  rw [String.utf8EncodeChar, String.utf8EncodeChar]
  -- only the two code points matter from here on
  generalize c.val.toNat = v at hlt ⊢
  generalize d.val.toNat = w at hlt hbound ⊢
  -- a character of more bytes has a greater first byte
  have hfirst : ∀ {a b : Nat} {s t : List UInt8}, a < b → b < 256 →
      UInt8.ofNat a :: s < UInt8.ofNat b :: t := by
    intro a b s t hab hb
    exact cons_ofNat_lt_cons_ofNat hb (by omega) (by omega)
  by_cases hone : v ≤ 127
  · rw [if_pos hone]
    repeat' split
    all_goals exact hfirst (by omega) (by omega)
  rw [if_neg hone, if_neg (show ¬ w ≤ 127 by omega)]
  by_cases htwo : v ≤ 2047
  · rw [if_pos htwo]
    split
    -- with as many bytes, the first ones that differ are in order
    · refine cons_ofNat_lt_cons_ofNat (by omega) (by omega) fun _ => ?_
      exact hfirst (by omega) (by omega)
    · split
      all_goals exact hfirst (by omega) (by omega)
  rw [if_neg htwo, if_neg (show ¬ w ≤ 2047 by omega)]
  by_cases hthree : v ≤ 65535
  · rw [if_pos hthree]
    split
    · refine cons_ofNat_lt_cons_ofNat (by omega) (by omega) fun _ => ?_
      refine cons_ofNat_lt_cons_ofNat (by omega) (by omega) fun _ => ?_
      exact hfirst (by omega) (by omega)
    · exact hfirst (by omega) (by omega)
  · rw [if_neg hthree, if_neg (show ¬ w ≤ 65535 by omega)]
    refine cons_ofNat_lt_cons_ofNat (by omega) (by omega) fun _ => ?_
    refine cons_ofNat_lt_cons_ofNat (by omega) (by omega) fun _ => ?_
    refine cons_ofNat_lt_cons_ofNat (by omega) (by omega) fun _ => ?_
    exact hfirst (by omega) (by omega)

/-! ## Bytes of texts -/

theorem flatMap_utf8EncodeChar_lt {s t : List Char} (h : s < t) :
    s.flatMap String.utf8EncodeChar < t.flatMap String.utf8EncodeChar := by
  induction h with
  | nil =>
    -- every character has a byte
    rw [List.flatMap_nil, List.flatMap_cons]
    obtain ⟨byte, bytes, hbytes⟩ := List.exists_cons_of_ne_nil String.utf8EncodeChar_ne_nil
    rw [hbytes]
    exact List.nil_lt_cons _ _
  | rel h =>
    rw [List.flatMap_cons, List.flatMap_cons]
    exact utf8EncodeChar_append_lt h _ _
  | cons _ ih =>
    rw [List.flatMap_cons, List.flatMap_cons]
    exact List.append_left_lt ih

/-- **Texts are in the order of their bytes.** -/
theorem lt_iff_bytes_lt {a b : String} : a < b ↔ bytes a < bytes b := by
  have hbytes : ∀ {a b : String}, a < b → bytes a < bytes b := by
    intro a b h
    rw [bytes_eq_flatMap, bytes_eq_flatMap]
    exact flatMap_utf8EncodeChar_lt (String.lt_iff.mp h)
  refine ⟨hbytes, ?_⟩
  intro h
  apply String.not_le.mp
  intro hle
  -- otherwise the bytes would be the same ones or in the other order
  by_cases heq : b = a
  · rw [heq] at h
    exact List.lt_irrefl _ h
  · have hlt : b < a := String.not_le.mp fun hge => heq (String.le_antisymm hle hge)
    exact List.lt_asymm h (hbytes hlt)

end MessageCatalog.Text
