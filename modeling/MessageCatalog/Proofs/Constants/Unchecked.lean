import Mathlib.Data.List.Induction
import MessageCatalog.Proofs.Constants.Reader
import MessageCatalog.Proofs.Entry.KeyPath

/-!
# Constants of any document

Without strict checks the file of constants is written whatever the symbols are, and a symbol stands
in its line as it is. A symbol that holds a newline cuts its declaration, and what stands behind the
newline may look like another declaration. Still, no text is lost: the file tells which entries it
was written for, if it is read from its end, where a literal is the last thing on its line and a
symbol is as long as its dotted key.

## Main results

* `Text.Literal.append_encode_inj`: a literal behind a space is found from its end
* `Constants.render_inj`: entries whose symbols are as long as their keys are told by their file
* `Document.lines_of_constants`: the constants of a document have one line each exactly if no symbol
  holds a newline, and no other entries of a document have the same file
-/

namespace MessageCatalog

namespace Text.Literal

theorem quote_not_mem_codeEscape (c : Char) : '"' ∉ codeEscape c := by
  intro h
  rw [codeEscape, List.mem_append, List.mem_append] at h
  rcases h with (hopen | hdigit) | hclose
  · exact absurd hopen (by decide)
  · obtain ⟨n, hn, hquote⟩ := digitChar_of_mem_toDigits hdigit
    revert n
    decide
  · exact absurd hclose (by decide)

/-- A quote in the spelling of a character is the second of two characters. -/
theorem eq_backslash_of_encodeChar {c : Char} {before after : List Char}
    (h : encodeChar c = before ++ '"' :: after) : before = ['\\'] := by
  have hquote : '"' ∈ encodeChar c := h ▸ List.mem_append_right _ List.mem_cons_self
  rcases encodeChar_cases c with
    ⟨letter, -, -, hspelling⟩ | hspelling | ⟨hspelling, hne, -⟩
  · rw [hspelling] at h
    -- the first of the two characters is no quote
    rcases before with - | ⟨first, before⟩
    · cases h
    · obtain ⟨rfl, hrest⟩ := List.cons_eq_cons.mp h
      rcases before with - | ⟨second, before⟩
      · rfl
      · simp at hrest
  · rw [hspelling] at hquote
    exact absurd hquote (quote_not_mem_codeEscape c)
  · rw [hspelling, List.mem_singleton] at hquote
    exact absurd hquote.symm hne

/-- **Every quote in a literal stands behind a backslash.** -/
theorem backslash_before_quote {s before after : List Char}
    (h : encodeBody s = before ++ '"' :: after) : before.getLast? = some '\\' := by
  induction s generalizing before with
  | nil => simp at h
  | cons c s ih =>
    rw [encodeBody_cons, List.append_eq_append_iff] at h
    rcases h with ⟨between, rfl, hrest⟩ | ⟨between, hchar, hrest⟩
    · -- the quote belongs to a later character
      rw [List.getLast?_append, ih hrest, Option.some_or]
    · rcases between with - | ⟨first, between⟩
      · have hquote : encodeBody s = [] ++ '"' :: after := hrest.symm
        exact absurd (ih hquote) (by simp)
      · obtain ⟨rfl, -⟩ := List.cons_eq_cons.mp hrest
        rw [eq_backslash_of_encodeChar hchar]
        rfl

theorem eq_nil_of_quote_encodeBody {front between s t : List Char}
    (hspace : (front ++ between).getLast? = some ' ')
    (h : '"' :: encodeBody s = between ++ '"' :: encodeBody t) : between = [] := by
  rcases between with - | ⟨first, between⟩
  · rfl
  · obtain ⟨rfl, hbody⟩ := List.cons_eq_cons.mp h
    have hlast := backslash_before_quote hbody
    rw [← List.singleton_append, ← List.append_assoc, List.getLast?_append, hlast] at hspace
    simp at hspace

/-- **A literal behind a space is found from its end**: no space in it stands before a quote. -/
theorem append_encode_inj {front front' s s' : List Char} (hfront : front.getLast? = some ' ')
    (hfront' : front'.getLast? = some ' ') (h : front ++ encode s = front' ++ encode s') :
    front = front' ∧ s = s' := by
  have hopen : front ++ '"' :: encodeBody s = front' ++ '"' :: encodeBody s' := by
    have hclosed : front ++ '"' :: encodeBody s ++ ['"'] =
        front' ++ '"' :: encodeBody s' ++ ['"'] := by simpa [encode] using h
    exact List.append_cancel_right hclosed
  have hsame : front = front' := by
    rcases List.append_eq_append_iff.mp hopen with ⟨between, rfl, hbody⟩ | ⟨between, rfl, hbody⟩
    · rw [eq_nil_of_quote_encodeBody hfront' hbody, List.append_nil]
    · rw [eq_nil_of_quote_encodeBody hfront hbody, List.append_nil]
  subst hsame
  have hread := LiteralReader.decode_encode s []
  rw [List.append_cancel_left h, LiteralReader.decode_encode] at hread
  exact ⟨rfl, (Prod.mk.inj (Option.some.inj hread)).1.symm⟩

end Text.Literal

namespace Constants

/-- A declaration: what stands in front of its literal, which ends in a space, and the literal. -/
theorem toList_declaration (entry : Entry) :
    (declaration entry).toList =
      beforeToken.toList ++ (Text.renderIdentifier entry.symbol).toList ++ beforeLiteral.toList ++
        Text.Literal.encode entry.key.toList ++ [';', '\n'] := by
  rw [declaration_eq]
  simp [Declaration.spelling, Declaration.ofEntry]

/-- Names of one length are told by what stands before something else ends in their spellings. -/
theorem eq_of_append_renderIdentifier {front front' : List Char} {name name' : String}
    (hlength : name.length = name'.length)
    (h : front ++ (Text.renderIdentifier name).toList =
      front' ++ (Text.renderIdentifier name').toList) : name = name' := by
  have hends : ∀ name, ∃ mark, (Text.renderIdentifier name).toList = mark ++ name.toList := by
    intro name
    unfold Text.renderIdentifier
    split
    · exact ⟨"r#".toList, String.toList_append⟩
    · exact ⟨[], rfl⟩
  obtain ⟨mark, hmark⟩ := hends name
  obtain ⟨mark', hmark'⟩ := hends name'
  rw [hmark, hmark', ← List.append_assoc, ← List.append_assoc] at h
  refine String.toList_injective (List.append_inj' h ?_).2
  rwa [String.length_toList, String.length_toList]

/-- **The last declaration is found from its end.** -/
theorem append_declaration_inj {front front' : List Char} {entry other : Entry}
    (hentry : entry.symbol.length = entry.key.length)
    (hother : other.symbol.length = other.key.length)
    (h : front ++ (declaration entry).toList = front' ++ (declaration other).toList) :
    front = front' ∧ entry = other := by
  have hspace : ∀ (front : List Char) (symbol : String),
      (front ++ (beforeToken.toList ++ (Text.renderIdentifier symbol).toList ++
        beforeLiteral.toList)).getLast? = some ' ' := by
    intro front symbol
    rw [List.getLast?_append, List.getLast?_append]
    rfl
  have hliterals := h
  rw [toList_declaration, toList_declaration, ← List.append_assoc, ← List.append_assoc,
    ← List.append_assoc front', ← List.append_assoc front',
    List.append_cancel_right_eq] at hliterals
  obtain ⟨hbefore, hkeys⟩ := Text.Literal.append_encode_inj (hspace front entry.symbol)
    (hspace front' other.symbol) hliterals
  have hkey : entry.key = other.key := String.toList_injective hkeys
  -- the keys are as long as the symbols, so the symbols are equally long
  have hlength : entry.symbol.length = other.symbol.length := by rw [hentry, hother, hkey]
  rw [← List.append_assoc, ← List.append_assoc front', List.append_cancel_right_eq,
    ← List.append_assoc, ← List.append_assoc] at hbefore
  have hsymbol : entry.symbol = other.symbol := eq_of_append_renderIdentifier hlength hbefore
  obtain rfl : entry = other := congrArg₂ Entry.mk hsymbol hkey
  exact ⟨List.append_cancel_right h, rfl⟩

/-- Declarations one below the other tell their entries, the last one first. -/
theorem flatMap_declaration_inj {entries others : List Entry}
    (hentries : ∀ entry ∈ entries, entry.symbol.length = entry.key.length)
    (hothers : ∀ entry ∈ others, entry.symbol.length = entry.key.length)
    (h : entries.flatMap (fun entry => (declaration entry).toList) =
      others.flatMap fun entry => (declaration entry).toList) : entries = others := by
  have hne : ∀ entry, (declaration entry).toList ≠ [] := by
    intro entry
    rw [toList_declaration]
    simp
  induction entries using List.reverseRecOn generalizing others with
  | nil =>
    rcases List.eq_nil_or_concat others with rfl | ⟨others, other, rfl⟩
    · rfl
    · simp [hne] at h
  | append_singleton entries entry ih =>
    rcases List.eq_nil_or_concat others with rfl | ⟨others, other, rfl⟩
    · simp [hne] at h
    · rw [List.concat_eq_append] at *
      rw [List.flatMap_append, List.flatMap_append, List.flatMap_singleton,
        List.flatMap_singleton] at h
      obtain ⟨hfront, rfl⟩ := append_declaration_inj (hentries entry (by simp))
        (hothers other (by simp)) h
      rw [ih (fun e he => hentries e (by simp [he])) (fun e he => hothers e (by simp [he])) hfront]

/-- **The file tells its entries**, if their symbols are as long as their dotted keys. -/
theorem render_inj {entries others : List Entry}
    (hentries : ∀ entry ∈ entries, entry.symbol.length = entry.key.length)
    (hothers : ∀ entry ∈ others, entry.symbol.length = entry.key.length) :
    render entries = render others ↔ entries = others := by
  constructor
  · intro h
    have hbody := congrArg String.toList h
    simp only [render, String.toList_append, List.append_cancel_right_eq,
      List.append_cancel_left_eq] at hbody
    refine flatMap_declaration_inj hentries hothers ?_
    simpa [List.flatMap_def, Function.comp_def] using hbody
  · rintro rfl
    rfl

/-! ## Newlines -/

theorem count_newline_spelling (entry : Entry) :
    (Declaration.ofEntry entry).spelling.toList.count '\n' = entry.symbol.toList.count '\n' := by
  have hbefore : beforeToken.toList.count '\n' = 0 := by decide +kernel
  have hbetween : beforeLiteral.toList.count '\n' = 0 := by decide +kernel
  have hliteral : (Text.Literal.encode entry.key.toList).count '\n' = 0 :=
    List.count_eq_zero.mpr (Text.Literal.newline_not_mem_encode _)
  have htoken : (Text.renderIdentifier entry.symbol).toList.count '\n' =
      entry.symbol.toList.count '\n' := by
    unfold Text.renderIdentifier
    split
    · rw [String.toList_append, List.count_append]
      exact Nat.zero_add _
    · rfl
  simp [Declaration.spelling, Declaration.ofEntry, List.count_append, hbefore, hbetween, hliteral,
    htoken]

/-- The lines of an entry: one, and one more for every newline in its symbol. -/
theorem length_lines_spelling (entry : Entry) :
    (Text.lines (Declaration.ofEntry entry).spelling).length =
      entry.symbol.toList.count '\n' + 1 := by
  rw [Text.length_lines, count_newline_spelling]

/-- There are as many lines as entries exactly if no symbol holds a newline. -/
theorem length_flatMap_lines_eq_iff (entries : List Entry) :
    ((entries.map fun entry => (Declaration.ofEntry entry).spelling).flatMap Text.lines).length =
      entries.length ↔ ∀ entry ∈ entries, '\n' ∉ entry.symbol.toList := by
  have hlength : ((entries.map fun entry => (Declaration.ofEntry entry).spelling).flatMap
      Text.lines).length = (entries.map fun entry => entry.symbol.toList.count '\n').sum +
        entries.length := by
    induction entries with
    | nil => rfl
    | cons entry entries ih =>
      rw [List.map_cons, List.flatMap_cons, List.length_append, length_lines_spelling, ih,
        List.map_cons, List.sum_cons, List.length_cons]
      omega
  rw [hlength, Nat.add_eq_right, List.sum_eq_zero_iff_forall_eq_nat, List.forall_mem_map]
  exact forall₂_congr fun entry _ => List.count_eq_zero

/-- The lines are the declarations exactly if no symbol holds a newline. -/
theorem flatMap_lines_eq_map_iff (entries : List Entry) :
    (entries.map fun entry => (Declaration.ofEntry entry).spelling).flatMap Text.lines =
      entries.map (fun entry => (Declaration.ofEntry entry).spelling) ↔
        ∀ entry ∈ entries, '\n' ∉ entry.symbol.toList := by
  constructor
  · intro h
    rw [← length_flatMap_lines_eq_iff, h, List.length_map]
  · intro h
    apply Text.flatMap_lines_eq_self
    intro line hline
    obtain ⟨entry, hentry, rfl⟩ := List.mem_map.mp hline
    rw [← List.count_eq_zero, count_newline_spelling, List.count_eq_zero]
    exact h entry hentry

end Constants

/-! ## The constants of a document -/

/-- **The file of the constants of any document.** Between its head and its end stand the lines of
the entries, in their order. They are as many as the entries exactly if no symbol holds a newline,
and exactly then each of them is the declaration of its entry. Whatever the symbols are, no other
entries of a document have the same file. -/
theorem Document.lines_of_constants (document : Document) (skipBranches : Bool) :
    ∃ rows, Text.lines (Constants.render (document.flatten skipBranches)) =
        Constants.headLines ++ rows ++ Constants.footLines ∧
      rows = (document.flatten skipBranches).flatMap (fun entry =>
        Text.lines (Constants.Declaration.ofEntry entry).spelling) ∧
      (rows.length = (document.flatten skipBranches).length ↔
        ∀ entry ∈ document.flatten skipBranches, '\n' ∉ entry.symbol.toList) ∧
      (rows = (document.flatten skipBranches).map (fun entry =>
          (Constants.Declaration.ofEntry entry).spelling) ↔
        ∀ entry ∈ document.flatten skipBranches, '\n' ∉ entry.symbol.toList) ∧
      ∀ (other : Document) (skipOthers : Bool),
        Constants.render (document.flatten skipBranches) =
            Constants.render (other.flatten skipOthers) ↔
          document.flatten skipBranches = other.flatten skipOthers := by
  refine ⟨_, Constants.lines_render_eq _, List.flatMap_map _ _ _,
    Constants.length_flatMap_lines_eq_iff _, Constants.flatMap_lines_eq_map_iff _, ?_⟩
  intro other skipOthers
  apply Constants.render_inj
  · exact fun entry hentry => length_symbol_of_mem_flatten hentry
  · exact fun entry hentry => length_symbol_of_mem_flatten hentry

/-- A key that spells a declaration, a newline and the beginning of another declaration. -/
def forgingKey : String :=
  "a: &'static str = \"b\";\n    pub const c"

/-- A document with that key only. -/
def forgingDocument : Document :=
  ⟨"en", [(forgingKey, .leaf (.string "x"))]⟩

/-- One key declares two constants, the first of which is no key of the document. -/
theorem forgingDocument_declares_two :
    (forgingDocument.flatten false).length = 1 ∧
      ∃ rows, Text.lines (Constants.render (forgingDocument.flatten false)) =
          Constants.headLines ++ rows ++ Constants.footLines ∧
        rows.mapM Constants.Declaration.read? = some [⟨"a", "b"⟩, ⟨"c", forgingKey⟩] ∧
        rows.length ≠ (forgingDocument.flatten false).length := by
  obtain ⟨rows, hlines, hrows, hlength, -⟩ := forgingDocument.lines_of_constants false
  refine ⟨by decide +kernel, rows, hlines, ?_, ?_⟩
  · rw [hrows]
    decide +kernel
  · intro hsame
    have hnewline : ¬ ∀ entry ∈ forgingDocument.flatten false, '\n' ∉ entry.symbol.toList := by
      decide +kernel
    exact hnewline (hlength.mp hsame)

end MessageCatalog
