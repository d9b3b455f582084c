import MessageCatalog.Document.Reading
import MessageCatalog.Proofs.Text.Bytes

/-!
# Names of files and of documents

A document is named by its file, and one ending `.json` does not belong to the name. So two files at
most can hold a document of some name: the one of that very name, unless the name ends in `.json`,
and the one with `.json` behind it.

This is so where the names of files are texts. Of other names the document only has what is read of
them, which many can share. But what goes on behind `.json` names another document in any case.

## Main definitions

* `HasDocumentSuffix` — a name ends in `.json`.
* `AreNamesakes` — of two names of any bytes, one is the other with `.json` behind it.

## Main results

* `documentNameOf_eq_iff`: which files belong to the name of a document
* `namesakes_of_lt`: the file of that very name is the smaller one
* `documentNameOf_append_ne`: a longer name than one that ends in `.json` is that of another
  document
* `documentNameOfBytes_eq_iff`: which names that are texts give their documents one name
* `documentNameOfBytes_append_ne`: what goes on behind `.json` names another document, whatever the
  bytes are
-/

namespace MessageCatalog

open Text (bytes ofBytes IsUtf8)

/-- A name ends in `.json`. -/
def HasDocumentSuffix (name : String) : Prop :=
  documentSuffix <:+ name.toList

instance : DecidablePred HasDocumentSuffix :=
  fun name => inferInstanceAs (Decidable (documentSuffix <:+ name.toList))

variable {name document : String}

theorem hasDocumentSuffix_iff : HasDocumentSuffix name ↔ ∃ stem, name = stem ++ ".json" := by
  constructor
  · rintro ⟨stem, hstem⟩
    refine ⟨String.ofList stem, String.toList_inj.mp ?_⟩
    rw [String.toList_append, String.toList_ofList, ← hstem]
    rfl
  · rintro ⟨stem, rfl⟩
    rw [HasDocumentSuffix, String.toList_append]
    exact List.suffix_append _ _

theorem documentNameOf_of_not_hasDocumentSuffix (h : ¬ HasDocumentSuffix name) :
    documentNameOf name = name := by
  simp only [documentNameOf, List.isSuffixOf_iff_suffix]
  exact if_neg h

/-- The ending is taken off once. -/
theorem documentNameOf_append (stem : String) : documentNameOf (stem ++ ".json") = stem := by
  have hsuffix : documentSuffix <:+ (stem ++ ".json").toList :=
    hasDocumentSuffix_iff.mpr ⟨stem, rfl⟩
  have hending : ".json".toList = documentSuffix := rfl
  simp only [documentNameOf, List.isSuffixOf_iff_suffix]
  rw [if_pos hsuffix, String.toList_append, List.length_append, hending, Nat.add_sub_cancel,
    List.take_left, String.ofList_toList]

/-- **The files of a document**: the one of its very name, unless that ends in `.json`, and the one
with `.json` behind it. -/
theorem documentNameOf_eq_iff :
    documentNameOf name = document ↔
      name = document ∧ ¬ HasDocumentSuffix document ∨ name = document ++ ".json" := by
  constructor
  · rintro rfl
    by_cases h : HasDocumentSuffix name
    · obtain ⟨stem, rfl⟩ := hasDocumentSuffix_iff.mp h
      rw [documentNameOf_append]
      exact Or.inr rfl
    · rw [documentNameOf_of_not_hasDocumentSuffix h]
      exact Or.inl ⟨rfl, h⟩
  · rintro (⟨rfl, h⟩ | rfl)
    · exact documentNameOf_of_not_hasDocumentSuffix h
    · exact documentNameOf_append document

theorem lt_append_suffix (name : String) : name < name ++ ".json" := by
  rw [String.lt_iff, String.toList_append]
  have hlt : name.toList ++ [] < name.toList ++ ".json".toList :=
    List.append_left_lt (List.nil_lt_cons _ _)
  rwa [List.append_nil] at hlt

/-- **The file of the very name of a document is the smaller of its two files.** -/
theorem namesakes_of_lt {one other : String} (hlt : one < other)
    (hone : documentNameOf one = document) (hother : documentNameOf other = document) :
    ¬ HasDocumentSuffix document ∧ one = document ∧ other = document ++ ".json" := by
  rcases documentNameOf_eq_iff.mp hone with ⟨rfl, hplain⟩ | rfl
  · rcases documentNameOf_eq_iff.mp hother with ⟨rfl, -⟩ | rfl
    · exact absurd hlt (String.lt_irrefl _)
    · exact ⟨hplain, rfl, rfl⟩
  · rcases documentNameOf_eq_iff.mp hother with ⟨rfl, -⟩ | rfl
    · exact absurd (lt_append_suffix _) (String.lt_asymm hlt)
    · exact absurd hlt (String.lt_irrefl _)

/-- Two files of one document are the one of its very name and the one with `.json` behind it. -/
theorem documentNameOf_eq_documentNameOf_iff {one other : String} (hne : one ≠ other) :
    documentNameOf one = documentNameOf other ↔
      ∃ document, ¬ HasDocumentSuffix document ∧
        (one = document ∧ other = document ++ ".json" ∨
          other = document ∧ one = document ++ ".json") := by
  constructor
  · intro h
    -- one of two different names is the smaller one
    by_cases hlt : one < other
    · obtain ⟨hplain, hone, hother⟩ := namesakes_of_lt hlt h rfl
      exact ⟨_, hplain, Or.inl ⟨hone, hother⟩⟩
    · have hgt : other < one :=
        String.not_le.mp fun hle => hne (String.le_antisymm hle (String.not_lt.mp hlt))
      obtain ⟨hplain, hother, hone⟩ := namesakes_of_lt hgt rfl h
      exact ⟨_, hplain, Or.inr ⟨hother, hone⟩⟩
  · rintro ⟨document, hplain, ⟨rfl, rfl⟩ | ⟨rfl, rfl⟩⟩
    · rw [documentNameOf_append, documentNameOf_of_not_hasDocumentSuffix hplain]
    · rw [documentNameOf_append, documentNameOf_of_not_hasDocumentSuffix hplain]

/-- **A longer name than one that ends in `.json` is that of another document.** -/
theorem documentNameOf_append_ne {original text : String} (h : HasDocumentSuffix original)
    (htext : text ≠ "") : documentNameOf (original ++ text) ≠ documentNameOf original := by
  obtain ⟨stem, rfl⟩ := hasDocumentSuffix_iff.mp h
  rw [documentNameOf_append, Ne, documentNameOf_eq_iff]
  -- both files of the document are shorter
  rintro (⟨hname, -⟩ | hname)
  · have hlength := congrArg String.length hname
    simp only [String.length_append] at hlength
    have hsuffix : ".json".length = 5 := rfl
    omega
  · exact htext (String.append_right_inj _ |>.mp (hname.trans (String.append_empty).symm))

/-! ## Names of any bytes -/

/-- A path is a text, so nothing of its last name is lost. -/
theorem Path.documentName_eq (p : Path) :
    p.documentName = documentNameOf (p.fileName?.getD "") := by
  rw [Path.documentName, documentNameOfBytes, Text.ofBytes_bytes]

/-- Of two names of any bytes, one does not end in `.json` and the other is that name with `.json`
behind it. -/
def AreNamesakes (one other : List UInt8) : Prop :=
  ∃ stem, ¬ bytes ".json" <:+ stem ∧
    (one = stem ∧ other = stem ++ bytes ".json" ∨ other = stem ∧ one = stem ++ bytes ".json")

theorem AreNamesakes.length_ne {one other : List UInt8} (h : AreNamesakes one other) :
    one.length ≠ other.length := by
  have hsuffix : (bytes ".json").length = 5 := by decide +kernel
  obtain ⟨stem, -, ⟨rfl, rfl⟩ | ⟨rfl, rfl⟩⟩ := h
  all_goals
    rw [List.length_append, hsuffix]
    omega

/-- The ending starts with a byte of its own, so it divides what is read. -/
theorem ofBytes_append_suffix_append (stem rest : List UInt8) :
    ofBytes (stem ++ bytes ".json" ++ rest) = ofBytes stem ++ ".json" ++ ofBytes rest := by
  have hsuffix : bytes ".json" = 0x2E :: bytes "json" := by decide +kernel
  have hbehind : ofBytes (0x2E :: (bytes "json" ++ rest)) = ".json" ++ ofBytes rest := by
    rw [← List.cons_append, ← hsuffix, Text.ofBytes_bytes_append]
  rw [List.append_assoc, hsuffix, List.cons_append, Text.ofBytes_append_cons (by decide), hbehind,
    String.append_assoc]

theorem ofBytes_append_suffix (stem : List UInt8) :
    ofBytes (stem ++ bytes ".json") = ofBytes stem ++ ".json" := by
  have h := ofBytes_append_suffix_append stem []
  rwa [List.append_nil, Text.ofBytes_nil, String.append_empty] at h

theorem suffix_bytes_iff : bytes ".json" <:+ bytes name ↔ HasDocumentSuffix name := by
  rw [hasDocumentSuffix_iff]
  constructor
  · rintro ⟨stem, hstem⟩
    refine ⟨ofBytes stem, ?_⟩
    rw [← Text.ofBytes_bytes name, ← hstem, ofBytes_append_suffix]
  · rintro ⟨stem, rfl⟩
    rw [Text.bytes_append]
    exact List.suffix_append _ _

/-- **Which names that are texts give their documents one name.** -/
theorem documentNameOfBytes_eq_iff {one other : List UInt8} (hone : IsUtf8 one)
    (hother : IsUtf8 other) (hne : one ≠ other) :
    documentNameOfBytes one = documentNameOfBytes other ↔ AreNamesakes one other := by
  obtain ⟨one, rfl⟩ := hone
  obtain ⟨other, rfl⟩ := hother
  rw [documentNameOfBytes, documentNameOfBytes, Text.ofBytes_bytes, Text.ofBytes_bytes,
    documentNameOf_eq_documentNameOf_iff fun hsame => hne (congrArg bytes hsame)]
  constructor
  · rintro ⟨document, hplain, ⟨rfl, rfl⟩ | ⟨rfl, rfl⟩⟩
    · exact ⟨bytes one, mt suffix_bytes_iff.mp hplain, Or.inl ⟨rfl, Text.bytes_append _ _⟩⟩
    · exact ⟨bytes other, mt suffix_bytes_iff.mp hplain, Or.inr ⟨rfl, Text.bytes_append _ _⟩⟩
  · rintro ⟨stem, hplain, ⟨rfl, hlonger⟩ | ⟨rfl, hlonger⟩⟩
    · rw [← Text.bytes_append] at hlonger
      exact ⟨one, mt suffix_bytes_iff.mpr hplain, Or.inl ⟨rfl, Text.bytes_injective hlonger⟩⟩
    · rw [← Text.bytes_append] at hlonger
      exact ⟨other, mt suffix_bytes_iff.mpr hplain, Or.inr ⟨rfl, Text.bytes_injective hlonger⟩⟩

/-- **What goes on behind `.json` names another document**, whatever the bytes are. -/
theorem documentNameOfBytes_append_ne {original text : List UInt8}
    (h : bytes ".json" <:+ original) (htext : text ≠ []) :
    documentNameOfBytes (original ++ text) ≠ documentNameOfBytes original := by
  obtain ⟨stem, rfl⟩ := h
  rw [documentNameOfBytes, documentNameOfBytes, ofBytes_append_suffix_append,
    ofBytes_append_suffix]
  exact documentNameOf_append_ne (hasDocumentSuffix_iff.mpr ⟨_, rfl⟩)
    (mt Text.ofBytes_eq_empty_iff.mp htext)

end MessageCatalog
