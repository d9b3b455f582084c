import MessageCatalog.Proofs.Text.Identifier

/-!
# Paths of use declarations

Names are imported along a path: some names between double colons. It may start at the root of all
paths, with two colons in front, or at a place that one of three keywords leads to; no keyword can
stand anywhere else in it. Module paths are checked for the shape of their segments only.

## Main definitions

* `IsName` — the words that are no keywords.
* `IsPathStart` — the keywords that a path may start with.
* `IsUsePath`, `IsUseDeclaration` — the paths that names can be imported along, and the lines that
  do so.
* `segments`, `plainSegments` — the segments of a path, and those that have to be names.

## Main results

* `pathSegments_intercalate`, `intercalate_pathSegments`: a path is cut at its double colons
* `isUsePath_iff`: a path that can be imported along is a module path in which no keyword stands
  where a name has to
* `isUseDeclaration_iff`: a line that imports along a module path is a declaration if and only if
  its path can be imported along
-/

namespace MessageCatalog.Text

open Unicode (isIdentifierStart isIdentifierContinue)

/-! ## The language of paths -/

/-- The names of items: words that are no keywords. -/
def IsName (name : String) : Prop :=
  IsTokenWord name.toList ∧ name ∉ keywords

/-- What a path may start with besides a name: the root of its own crate, its own module, or the
modules around it. -/
inductive IsPathStart : List String → Prop where
  | name : IsPathStart []
  | ownCrate : IsPathStart ["crate"]
  | ownModule : IsPathStart ["self"]
  | around (levels : Nat) : IsPathStart (List.replicate levels "super")

/-- The paths that names can be imported along. -/
inductive IsUsePath : String → Prop where
  | absolute {names : List String} : names ≠ [] → (∀ name ∈ names, IsName name) →
      IsUsePath ("::" ++ "::".intercalate names)
  | relative {start names : List String} : IsPathStart start → start ++ names ≠ [] →
      (∀ name ∈ names, IsName name) → IsUsePath ("::".intercalate (start ++ names))

/-- The line that imports some names along a path. -/
def useLine (path : String) (names : List String) : String :=
  "use " ++ path ++ "::\x7b" ++ ", ".intercalate names ++ "\x7d;"

/-- The lines that import some names along a path. -/
def IsUseDeclaration (line : String) : Prop :=
  ∃ path names, IsUsePath path ∧ (∀ name ∈ names, IsName name) ∧ line = useLine path names

/-! ## Segments -/

theorem pathSegments_ne_nil (cs : List Char) : pathSegments cs ≠ [] := by
  fun_cases pathSegments cs <;> simp_all

/-- The segments of a path make up the path. -/
theorem intercalate_pathSegments (cs : List Char) :
    [':', ':'].intercalate (pathSegments cs) = cs := by
  fun_induction pathSegments cs with
  | case1 => rfl
  | case2 rest ih =>
    obtain ⟨segment, segments, hsegments⟩ := List.exists_cons_of_ne_nil (pathSegments_ne_nil rest)
    rw [hsegments] at ih ⊢
    rw [List.intercalate_cons_cons, ih]
    rfl
  | case3 c rest _ hnil => exact absurd hnil (pathSegments_ne_nil rest)
  | case4 c rest _ segment segments hsegments ih =>
    rw [hsegments] at ih
    cases segments with
    | nil =>
      rw [List.intercalate_singleton] at ih ⊢
      rw [ih]
    | cons next segments =>
      rw [List.intercalate_cons_cons] at ih ⊢
      rw [← ih]
      rfl

theorem pathSegments_cons {c : Char} (hc : c ≠ ':') {rest segment : List Char}
    {segments : List (List Char)} (h : pathSegments rest = segment :: segments) :
    pathSegments (c :: rest) = (c :: segment) :: segments := by
  rw [pathSegments]
  · rw [h]
  · intro tail hcolon
    exact absurd hcolon hc

theorem pathSegments_append {segment : List Char} (h : ':' ∉ segment) (rest : List Char) :
    pathSegments (segment ++ ':' :: ':' :: rest) = segment :: pathSegments rest := by
  induction segment with
  | nil => rw [List.nil_append, pathSegments]
  | cons c segment ih =>
    rw [List.mem_cons, not_or] at h
    rw [List.cons_append]
    exact pathSegments_cons (fun heq => h.1 heq.symm) (ih h.2)

theorem pathSegments_of_not_mem {segment : List Char} (h : ':' ∉ segment) :
    pathSegments segment = [segment] := by
  induction segment with
  | nil => rw [pathSegments]
  | cons c segment ih =>
    rw [List.mem_cons, not_or] at h
    exact pathSegments_cons (fun heq => h.1 heq.symm) (ih h.2)

/-- Segments without colons are found again. -/
theorem pathSegments_intercalate {segments : List (List Char)} (hne : segments ≠ [])
    (h : ∀ segment ∈ segments, ':' ∉ segment) :
    pathSegments ([':', ':'].intercalate segments) = segments := by
  induction segments with
  | nil => exact absurd rfl hne
  | cons segment rest ih =>
    have hsegment := h segment List.mem_cons_self
    cases rest with
    | nil =>
      rw [List.intercalate_singleton]
      exact pathSegments_of_not_mem hsegment
    | cons next rest =>
      have hrest := ih (List.cons_ne_nil next rest) fun other hother =>
        h other (List.mem_cons_of_mem segment hother)
      rw [List.intercalate_cons_cons, List.append_assoc]
      exact (pathSegments_append hsegment _).trans (congrArg _ hrest)

/-! ## Words -/

theorem IsTokenWord.not_mem {cs : List Char} (h : IsTokenWord cs) {c : Char}
    (hc : (c == '_' || isIdentifierStart c || isIdentifierContinue c) = false) : c ∉ cs :=
  not_mem_of_isWord ((isTokenWord_iff cs).mp h).1 hc

theorem IsTokenWord.ne_nil {cs : List Char} (h : IsTokenWord cs) : cs ≠ [] := by
  rintro rfl
  cases h

theorem colon_not_mem_of_isTokenWord {cs : List Char} (h : IsTokenWord cs) : ':' ∉ cs :=
  h.not_mem (by decide +kernel)

/-! ## The segments of a path -/

/-- The segments of a path, without two colons in front. -/
def segments (path : String) : List String :=
  (pathSegments (withoutLeadingColons path.toList)).map String.ofList

/-- Whether a path starts at the root of all paths. -/
def isAbsolutePath (path : String) : Bool :=
  [':', ':'].isPrefixOf path.toList

/-- What stands behind the keywords that a path may start with. -/
def behindStart (segments : List String) : List String :=
  if segments.head? = some "crate" ∨ segments.head? = some "self" then segments.tail
  else segments.dropWhile fun segment => segment = "super"

/-- The segments of a path that have to be names. -/
def plainSegments (path : String) : List String :=
  if isAbsolutePath path then segments path else behindStart (segments path)

theorem isModulePath_iff (path : String) :
    isModulePath path = true ↔ ∀ segment ∈ segments path, IsTokenWord segment.toList := by
  rw [isModulePath, List.all_eq_true, segments, List.forall_mem_map]
  refine forall₂_congr fun segment _ => ?_
  rw [String.toList_ofList, isTokenWord_iff, Bool.and_eq_true, bne_iff_ne]

/-- Some segments start with keywords that a path may start with. -/
theorem exists_start (segments : List String) :
    ∃ start, IsPathStart start ∧ segments = start ++ behindStart segments := by
  rw [behindStart]
  split
  · next hhead =>
    rcases hhead with hhead | hhead
    · obtain ⟨rest, rfl⟩ := List.head?_eq_some_iff.mp hhead
      exact ⟨["crate"], .ownCrate, rfl⟩
    · obtain ⟨rest, rfl⟩ := List.head?_eq_some_iff.mp hhead
      exact ⟨["self"], .ownModule, rfl⟩
  · have hsuper : segments.takeWhile (fun segment => segment = "super") =
        List.replicate (segments.takeWhile fun segment => segment = "super").length "super" := by
      rw [List.eq_replicate_iff]
      exact ⟨rfl, fun segment hsegment => by simpa using List.mem_takeWhile_imp hsegment⟩
    refine ⟨segments.takeWhile fun segment => segment = "super", ?_,
      List.takeWhile_append_dropWhile.symm⟩
    rw [hsuper]
    exact .around _

/-- The keywords that a path may start with have the shape of names. -/
theorem IsPathStart.isTokenWord {start : List String} (h : IsPathStart start) :
    ∀ segment ∈ start, IsTokenWord segment.toList := by
  have hwords : ∀ keyword ∈ ["crate", "self", "super"], IsTokenWord keyword.toList := by
    intro keyword hkeyword
    rw [isTokenWord_iff]
    revert keyword
    decide +kernel
  intro segment hsegment
  apply hwords
  cases h with
  | name => cases hsegment
  | ownCrate => exact List.mem_cons.mpr (Or.inl (List.mem_singleton.mp hsegment))
  | ownModule => simp [List.mem_singleton.mp hsegment]
  | around levels => simp [List.eq_of_mem_replicate hsegment]

theorem behindStart_append {start names : List String} (hstart : IsPathStart start)
    (hnames : ∀ name ∈ names, name ∉ keywords) : behindStart (start ++ names) = names := by
  have hmem : "crate" ∈ keywords ∧ "self" ∈ keywords ∧ "super" ∈ keywords := by decide
  have hhead : ∀ keyword ∈ keywords, names.head? ≠ some keyword := by
    intro keyword hkeyword hhead
    exact hnames keyword (List.mem_of_mem_head? hhead) hkeyword
  -- a name is none of the keywords, so it ends the start of a path
  have hdrop : names.dropWhile (fun segment => segment = "super") = names := by
    cases names with
    | nil => rfl
    | cons name rest =>
      have hne : name ≠ "super" := by
        rintro rfl
        exact hhead "super" hmem.2.2 rfl
      exact List.dropWhile_cons_of_neg (by simp [hne])
  cases hstart with
  | name =>
    rw [List.nil_append, behindStart, if_neg, hdrop]
    rintro (h | h)
    · exact hhead _ hmem.1 h
    · exact hhead _ hmem.2.1 h
  | ownCrate => rfl
  | ownModule => rfl
  | around levels =>
    have hsuper : ∀ segment ∈ List.replicate levels "super",
        decide (segment = "super") = true := by
      intro segment hsegment
      exact decide_eq_true (List.eq_of_mem_replicate hsegment)
    rw [behindStart, if_neg, List.dropWhile_append_of_pos hsuper, hdrop]
    cases levels with
    | zero =>
      rintro (h | h)
      · exact hhead _ hmem.1 h
      · exact hhead _ hmem.2.1 h
    | succ levels =>
      rw [List.replicate_succ, List.cons_append, List.head?_cons]
      decide

theorem toList_intercalate_colons (names : List String) :
    ("::".intercalate names).toList = [':', ':'].intercalate (names.map String.toList) :=
  String.toList_intercalate

/-- The segments of a path make up the path. -/
theorem intercalate_segments (path : String) :
    "::".intercalate (segments path) = String.ofList (withoutLeadingColons path.toList) := by
  apply String.toList_injective
  rw [toList_intercalate_colons, segments, List.map_map, String.toList_ofList]
  have hid : String.toList ∘ String.ofList = id := by
    funext cs
    exact String.toList_ofList
  rw [hid, List.map_id, intercalate_pathSegments]

section

variable {names : List String} (hne : names ≠ []) (h : ∀ name ∈ names, IsTokenWord name.toList)

include hne h

theorem pathSegments_toList_intercalate :
    (pathSegments ("::".intercalate names).toList).map String.ofList = names := by
  have hnames : ∀ segment ∈ names.map String.toList, ':' ∉ segment := by
    intro segment hsegment
    obtain ⟨name, hname, rfl⟩ := List.mem_map.mp hsegment
    exact colon_not_mem_of_isTokenWord (h name hname)
  rw [toList_intercalate_colons, pathSegments_intercalate (by simpa using hne) hnames, List.map_map]
  have hid : String.ofList ∘ String.toList = id := by
    funext name
    exact String.ofList_toList
  rw [hid, List.map_id]

/-- The segments of a path from the root. -/
theorem segments_absolute : segments ("::" ++ "::".intercalate names) = names ∧
    isAbsolutePath ("::" ++ "::".intercalate names) = true := by
  have hlist : ("::" ++ "::".intercalate names).toList =
      ':' :: ':' :: ("::".intercalate names).toList := by
    rw [String.toList_append]
    rfl
  constructor
  · rw [segments, hlist]
    exact pathSegments_toList_intercalate hne h
  · rw [isAbsolutePath, hlist]
    rfl

/-- The segments of a path that does not start at the root. -/
theorem segments_relative : segments ("::".intercalate names) = names ∧
    isAbsolutePath ("::".intercalate names) = false := by
  -- the path starts with a word, and so with no colon
  obtain ⟨c, rest, hlist, hc⟩ : ∃ c rest, ("::".intercalate names).toList = c :: rest ∧ c ≠ ':' := by
    obtain ⟨name, others, rfl⟩ := List.exists_cons_of_ne_nil hne
    have hname := h name List.mem_cons_self
    obtain ⟨c, tail, hcs⟩ := List.exists_cons_of_ne_nil hname.ne_nil
    have hcolon := colon_not_mem_of_isTokenWord hname
    rw [hcs, List.mem_cons, not_or] at hcolon
    rw [toList_intercalate_colons, List.map_cons, hcs]
    cases others with
    | nil => exact ⟨c, tail, List.intercalate_singleton, fun heq => hcolon.1 heq.symm⟩
    | cons other others => exact ⟨c, _, rfl, fun heq => hcolon.1 heq.symm⟩
  constructor
  · have hsame : withoutLeadingColons (c :: rest) = c :: rest := by
      rw [withoutLeadingColons]
      intro tail hcons
      exact absurd (List.cons.inj hcons).1 hc
    rw [segments, hlist, hsame, ← hlist]
    exact pathSegments_toList_intercalate hne h
  · rw [isAbsolutePath, hlist]
    show (':' == c && _) = false
    rw [beq_eq_false_iff_ne.mpr hc.symm, Bool.false_and]

end

/-- A path is the two colons in front, if it starts with them, and its segments. -/
theorem eq_intercalate_segments (path : String) :
    path = (if isAbsolutePath path then "::" else "") ++ "::".intercalate (segments path) := by
  apply String.toList_injective
  rw [intercalate_segments, String.toList_append, String.toList_ofList]
  by_cases habsolute : isAbsolutePath path = true
  · obtain ⟨rest, hrest⟩ := List.isPrefixOf_iff_prefix.mp habsolute
    rw [if_pos habsolute, ← hrest]
    rfl
  · rw [if_neg habsolute, isAbsolutePath] at *
    rw [withoutLeadingColons]
    · rfl
    · rintro rest hlist
      rw [hlist] at habsolute
      exact habsolute rfl

/-- **The paths that can be imported along** are the module paths in which no keyword stands where a
name has to. -/
theorem isUsePath_iff (path : String) :
    IsUsePath path ↔ isModulePath path = true ∧ ∀ name ∈ plainSegments path, name ∉ keywords := by
  rw [isModulePath_iff]
  constructor
  · intro hpath
    cases hpath with
    | @absolute names hne hnames =>
      obtain ⟨hsegments, habsolute⟩ := segments_absolute hne fun name hname => (hnames name hname).1
      rw [plainSegments, if_pos habsolute, hsegments]
      exact ⟨fun name hname => (hnames name hname).1, fun name hname => (hnames name hname).2⟩
    | @relative start names hstart hne hnames =>
      have hwords : ∀ segment ∈ start ++ names, IsTokenWord segment.toList := by
        intro segment hsegment
        rcases List.mem_append.mp hsegment with hmem | hmem
        · exact hstart.isTokenWord segment hmem
        · exact (hnames segment hmem).1
      obtain ⟨hsegments, habsolute⟩ := segments_relative hne hwords
      rw [plainSegments, if_neg (by simp [habsolute]), hsegments,
        behindStart_append hstart fun name hname => (hnames name hname).2]
      exact ⟨hwords, fun name hname => (hnames name hname).2⟩
  · rintro ⟨hwords, hplain⟩
    have hne : segments path ≠ [] := by
      rw [segments, Ne, List.map_eq_nil_iff]
      exact pathSegments_ne_nil _
    have hpath := eq_intercalate_segments path
    by_cases habsolute : isAbsolutePath path = true
    · rw [plainSegments, if_pos habsolute] at hplain
      rw [hpath, if_pos habsolute]
      exact .absolute hne fun name hname => ⟨hwords name hname, hplain name hname⟩
    · rw [plainSegments, if_neg habsolute] at hplain
      obtain ⟨start, hstart, hsplit⟩ := exists_start (segments path)
      rw [hpath, if_neg habsolute, String.empty_append, hsplit]
      rw [hsplit] at hne hwords
      refine .relative hstart hne fun name hname => ⟨?_, hplain name hname⟩
      exact hwords name (List.mem_append_right start hname)

/-! ## Declarations -/

/-- What stands between some texts and in them. -/
theorem mem_or_exists_mem_of_mem_intercalate {between : String} {texts : List String} {c : Char}
    (h : c ∈ (between.intercalate texts).toList) :
    c ∈ between.toList ∨ ∃ text ∈ texts, c ∈ text.toList := by
  rw [String.toList_intercalate] at h
  induction texts with
  | nil => cases h
  | cons text rest ih =>
    cases rest with
    | nil =>
      rw [List.map_singleton, List.intercalate_singleton] at h
      exact Or.inr ⟨text, List.mem_cons_self, h⟩
    | cons next rest =>
      rw [List.map_cons, List.map_cons, List.intercalate_cons_cons, List.mem_append,
        List.mem_append] at h
      rcases h with (htext | hbetween) | hrest
      · exact Or.inr ⟨text, List.mem_cons_self, htext⟩
      · exact Or.inl hbetween
      · rcases ih hrest with hbetween | ⟨other, hother, hmem⟩
        · exact Or.inl hbetween
        · exact Or.inr ⟨other, List.mem_cons_of_mem text hother, hmem⟩

/-- A module path holds only colons and characters that can stand in words. -/
theorem not_mem_of_isModulePath {path : String} (h : isModulePath path = true) {c : Char}
    (hc : (c == '_' || isIdentifierStart c || isIdentifierContinue c) = false) (hcolon : c ≠ ':') :
    c ∉ path.toList := by
  rw [isModulePath_iff] at h
  intro hmem
  rw [eq_intercalate_segments path, String.toList_append, List.mem_append] at hmem
  rcases hmem with hfront | hmem
  · split at hfront
    · exact hcolon (List.eq_of_mem_replicate (n := 2) hfront)
    · cases hfront
  · rcases mem_or_exists_mem_of_mem_intercalate hmem with hbetween | ⟨segment, hsegment, hmem⟩
    · exact hcolon (List.eq_of_mem_replicate (n := 2) hbetween)
    · exact (h segment hsegment).not_mem hc hmem

/-- A line that imports names tells the path in front of them. -/
theorem path_eq_of_useLine {path other : String} {names others : List String}
    (hpath : '{' ∉ path.toList) (hnames : ∀ name ∈ names, IsName name)
    (h : useLine path names = useLine other others) : path = other := by
  have hbetween : '{' ∉ (", ".intercalate names).toList := by
    intro hmem
    rcases mem_or_exists_mem_of_mem_intercalate hmem with hcomma | ⟨name, hname, hmem⟩
    · exact absurd hcomma (by decide)
    · exact (hnames name hname).1.not_mem (by decide +kernel) hmem
  have hbehind : '{' ∉ (", ".intercalate names ++ "\x7d;").toList := by
    rw [String.toList_append, List.mem_append, not_or]
    exact ⟨hbetween, by decide⟩
  have hsplit : ∀ path names, (useLine path names).toList =
      ("use " ++ path ++ "::").toList ++ '{' :: (", ".intercalate names ++ "\x7d;").toList := by
    intro path names
    simp [useLine, String.toList_append]
  -- the first brace stands behind the path in both lines
  have hlist := congrArg String.toList h
  rw [hsplit, hsplit] at hlist
  have hfront := ((List.append_cons_inj_of_notMem (by simp [hpath]) hbehind).mp hlist).1
  have hsame : "use " ++ path ++ "::" = "use " ++ other ++ "::" := String.toList_injective hfront
  simpa [String.append_assoc] using hsame

/-- **A line that imports along a module path is a declaration** if and only if no keyword stands in
the path where a name has to. -/
theorem isUseDeclaration_iff {path : String} (h : isModulePath path = true) {names : List String}
    (hnames : ∀ name ∈ names, IsName name) :
    IsUseDeclaration (useLine path names) ↔ ∀ name ∈ plainSegments path, name ∉ keywords := by
  have hbrace : '{' ∉ path.toList := not_mem_of_isModulePath h (by decide +kernel) (by decide)
  constructor
  · intro hline
    obtain ⟨other, others, hother, -, hsame⟩ := hline
    obtain rfl := path_eq_of_useLine hbrace hnames hsame
    exact ((isUsePath_iff path).mp hother).2
  · intro hplain
    exact ⟨path, names, (isUsePath_iff path).mpr ⟨h, hplain⟩, hnames, rfl⟩

end MessageCatalog.Text
