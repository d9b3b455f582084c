import MessageCatalog.Proofs.FileTree.Frame
import MessageCatalog.Proofs.Json.Indented
import MessageCatalog.Settings.Location

/-!
# Settings are read back

The text of some settings has one member for each field with a value, in the order of the fields.
Read member by member, the defaults turn into the settings that were written. A field that is left
out has no value, and its default is to have none.

## Main definitions

* `Settings.withField` — settings with the value that others have for a field.
* `Settings.members` — the members of a settings file for some fields.

## Main results

* `Settings.eq_of_value?_eq`: settings are fixed by the values of their fields
* `Settings.readField_value`: the value of a field is read back
* `Settings.readObject_member`: one member brings in the value of one field
* `Settings.readObject_members`: the members of some fields bring in the values of these fields
* `Settings.parse_render`: settings are read back from their text, and so from a file that holds it
-/

namespace MessageCatalog.Settings

open Json (EndsNumber indentedChars indentedBehind)

/-! ## The values of fields -/

/-- The settings with the value that others have for a field, if they have one. -/
def withField (settings source : Settings) : Field → Settings
  | .sourceDir => { settings with sourceDir := source.sourceDir }
  | .sourceFile => { settings with sourceFile := source.sourceFile.or settings.sourceFile }
  | .outputDir => { settings with outputDir := source.outputDir }
  | .keysFile => { settings with keysFile := source.keysFile }
  | .messagesFile => { settings with messagesFile := source.messagesFile }
  | .referenceLocale =>
    { settings with referenceLocale := source.referenceLocale.or settings.referenceLocale }
  | .strict => { settings with strict := source.strict }
  | .skipBranchKeys => { settings with skipBranchKeys := source.skipBranchKeys }
  | .maxDepth => { settings with maxDepth := source.maxDepth }
  | .runtimePath => { settings with runtimePath := source.runtimePath }

theorem value?_withField_self (settings source : Settings) (field : Field) :
    (settings.withField source field).value? field =
      (source.value? field).or (settings.value? field) := by
  cases field with
  | sourceFile => exact Option.map_or
  | referenceLocale => exact Option.map_or
  | _ => rfl

theorem value?_withField_of_ne (settings source : Settings) {field other : Field}
    (h : other ≠ field) : (settings.withField source field).value? other = settings.value? other := by
  cases field <;> cases other <;> first | rfl | exact absurd rfl h

theorem withField_of_value?_eq_none {settings source : Settings} {field : Field}
    (h : source.value? field = none) : settings.withField source field = settings := by
  cases field with
  | sourceFile => rw [withField, Option.map_eq_none_iff.mp h, Option.none_or]
  | referenceLocale => rw [withField, Option.map_eq_none_iff.mp h, Option.none_or]
  | _ => cases h

/-- A field that can have no value has none by default. -/
theorem value?_defaults_of_value?_eq_none {settings : Settings} {field : Field}
    (h : settings.value? field = none) : defaults.value? field = none := by
  cases field <;> first | rfl | cases h

/-- **Settings are fixed by the values of their fields.** -/
theorem eq_of_value?_eq {one other : Settings}
    (h : ∀ field, one.value? field = other.value? field) : one = other := by
  have htext : ∀ {a b : String}, some (Json.string a) = some (Json.string b) → a = b := by
    intro a b hab
    exact Json.string.inj (Option.some.inj hab)
  have hflag : ∀ {a b : Bool}, some (Json.boolean a) = some (Json.boolean b) → a = b := by
    intro a b hab
    exact Json.boolean.inj (Option.some.inj hab)
  have hoptional : ∀ {a b : Option String}, a.map Json.string = b.map Json.string → a = b := by
    intro a b hab
    exact Option.map_injective (fun _ _ => Json.string.inj) hab
  have hdepth : one.maxDepth = other.maxDepth :=
    Json.Number.natural.inj (Json.number.inj (Option.some.inj (h .maxDepth)))
  cases one
  cases other
  rw [Settings.mk.injEq]
  exact ⟨htext (h .sourceDir), hoptional (h .sourceFile), htext (h .outputDir),
    htext (h .keysFile), htext (h .messagesFile), hoptional (h .referenceLocale),
    hflag (h .strict), hflag (h .skipBranchKeys), hdepth, htext (h .runtimePath)⟩

theorem value?_foldl_withField (settings source : Settings) (fields : List Field) (field : Field) :
    (fields.foldl (fun settings field => settings.withField source field) settings).value? field =
      if field ∈ fields then (source.value? field).or (settings.value? field)
      else settings.value? field := by
  induction fields generalizing settings with
  | nil => rfl
  | cons first rest ih =>
    rw [List.foldl_cons, ih]
    by_cases hfirst : field = first
    · subst hfirst
      -- a field that comes again brings in the same value
      rw [value?_withField_self, if_pos List.mem_cons_self, ← Option.or_assoc, Option.or_self,
        ite_self]
    · rw [value?_withField_of_ne settings source hfirst]
      simp only [List.mem_cons, hfirst, false_or]

/-- The defaults with the values of all fields of some settings are these settings. -/
theorem foldl_withField_defaults (source : Settings) :
    Field.all.foldl (fun settings field => settings.withField source field) defaults = source := by
  apply eq_of_value?_eq
  intro field
  have hmem : field ∈ Field.all := by cases field <;> decide
  rw [value?_foldl_withField, if_pos hmem]
  cases hvalue : source.value? field with
  | none => rw [value?_defaults_of_value?_eq_none hvalue, Option.none_or]
  | some value => rfl

/-! ## The text of a field -/

theorem ofName?_name (field : Field) : Field.ofName? field.name = some field := by
  cases field <;> decide

section

variable {source : Settings} (hdepth : source.maxDepth < 2 ^ 64)

include hdepth in
/-- **The value of a field is read back** behind the colon. -/
theorem readField_value {field : Field} {value : Json} (hvalue : source.value? field = some value)
    (settings : Settings) (level : Nat) {rest : List Char} (hrest : EndsNumber rest) :
    settings.readField field (' ' :: (indentedChars level value ++ rest)) =
      .ok (settings.withField source field, rest) := by
  have hfits : source.maxDepth ≤ Json.maxSignificand := Nat.le_pred_of_lt hdepth
  cases field with
  | sourceFile =>
    obtain ⟨text, htext, rfl⟩ := Option.map_eq_some_iff.mp hvalue
    rw [readField, indentedChars, Json.readOptionalString_space, withField, htext]
    rfl
  | referenceLocale =>
    obtain ⟨text, htext, rfl⟩ := Option.map_eq_some_iff.mp hvalue
    rw [readField, indentedChars, Json.readOptionalString_space, withField, htext]
    rfl
  | strict =>
    obtain rfl := Option.some.inj hvalue
    rw [readField, Json.readFlag_space]
    rfl
  | skipBranchKeys =>
    obtain rfl := Option.some.inj hvalue
    rw [readField, Json.readFlag_space]
    rfl
  | maxDepth =>
    obtain rfl := Option.some.inj hvalue
    rw [readField, Json.readNatural_space hfits level hrest]
    rfl
  | _ =>
    obtain rfl := Option.some.inj hvalue
    rw [readField, indentedChars, Json.readString_space]
    rfl

/-! ## Member by member -/

/-- The members of a settings file for some fields: those that have a value. -/
def members (settings : Settings) (fields : List Field) : List (String × Json) :=
  fields.filterMap fun field => (settings.value? field).map fun value => (field.name, value)

theorem members_cons_of_none {field : Field} (hvalue : source.value? field = none)
    (fields : List Field) : source.members (field :: fields) = source.members fields := by
  simp [members, hvalue]

theorem members_cons_of_some {field : Field} {value : Json}
    (hvalue : source.value? field = some value) (fields : List Field) :
    source.members (field :: fields) = (field.name, value) :: source.members fields := by
  simp [members, hvalue]

include hdepth in
/-- **One member brings in the value of one field**, if the field has not been read before. -/
theorem readObject_member {field : Field} {value : Json}
    (hvalue : source.value? field = some value) (settings : Settings) {isFirst : Bool}
    {seen : List Field} (hnew : field ∉ seen) (fuel level : Nat) {cs rest : List Char}
    (hrest : EndsNumber rest)
    (hname : Json.nextName? isFirst cs =
      .ok (some (field.name, ':' :: ' ' :: (indentedChars level value ++ rest)))) :
    readObject (fuel + 1) isFirst seen settings cs =
      readObject fuel false (field :: seen) (settings.withField source field) rest := by
  have hseen : ¬ seen.contains field = true := by simpa using hnew
  rw [readObject, hname]
  simp only [ofName?_name, if_neg hseen, readKnown, Json.readColon_cons,
    readField_value hdepth hvalue settings level hrest]

include hdepth in
/-- **The members of some fields bring in the values of these fields**, up to the closing bracket. -/
theorem readObject_members {fields : List Field} (hfields : fields.Nodup) {seen : List Field}
    (hnew : ∀ field ∈ fields, field ∉ seen) (settings : Settings) {fuel : Nat}
    (hfuel : fields.length < fuel) (rest : List Char) :
    readObject fuel false seen settings (indentedBehind 0 (source.members fields) ++ rest) =
      .ok (fields.foldl (fun settings field => settings.withField source field) settings,
        rest) := by
  induction fields generalizing seen settings fuel with
  | nil =>
    obtain ⟨fuel, rfl⟩ : ∃ fewer, fuel = fewer + 1 := Nat.exists_eq_add_of_le' hfuel
    obtain ⟨hname, hclose⟩ := Json.nextName?_newLine_close 0 rest
    have htext : indentedBehind 0 (source.members []) ++ rest =
        Json.newLine 0 ++ '}' :: rest := rfl
    rw [htext, readObject, hname]
    simp only [hclose]
    rfl
  | cons field later ih =>
    rw [List.nodup_cons] at hfields
    rw [List.forall_mem_cons] at hnew
    rw [List.length_cons] at hfuel
    rw [List.foldl_cons]
    cases hvalue : source.value? field with
    | none =>
      -- nothing is written for the field, and there is nothing to bring in
      rw [members_cons_of_none hvalue, withField_of_value?_eq_none hvalue]
      exact ih hfields.2 hnew.2 settings (Nat.lt_of_succ_lt hfuel)
    | some value =>
      obtain ⟨fuel, rfl⟩ : ∃ fewer, fuel = fewer + 1 := Nat.exists_eq_add_of_le' (by omega)
      rw [members_cons_of_some hvalue, indentedBehind]
      simp only [List.cons_append, List.append_assoc]
      rw [readObject_member hdepth hvalue settings hnew.1 fuel 1
        (Json.endsNumber_indentedBehind 0 _ rest) (Json.nextName?_newLine 1 field.name _).2]
      refine ih hfields.2 ?_ _ (by omega)
      intro other hother
      rw [List.mem_cons, not_or]
      exact ⟨fun heq => hfields.1 (heq ▸ hother), hnew.2 other hother⟩

/-! ## The text as a whole -/

include hdepth in
/-- Settings are read from the front of a text that goes on behind them. -/
theorem read_render (rest : List Char) :
    read (source.render.toList ++ rest) = .ok (source, rest) := by
  have hall : Field.all = .sourceDir :: Field.all.tail := rfl
  have hmembers : source.members Field.all =
      (Field.sourceDir.name, .string source.sourceDir) :: source.members Field.all.tail := rfl
  have htext : source.render.toList =
      '{' :: Json.indentedMembers 0 (source.members Field.all) := by
    rw [render, Json.indented, String.toList_ofList]
    rfl
  have hopen : ∀ cs, read ('{' :: cs) = readObject (2 * cs.length + 1 + 1) true [] defaults cs :=
    fun _ => rfl
  have hfields : Field.all.tail.Nodup := by decide
  have hnew : ∀ field ∈ Field.all.tail, field ∉ [Field.sourceDir] := by decide
  -- the first name alone is longer than there are fields
  have hlength : (Json.quote Field.sourceDir.name).length = 11 := by decide
  have hfuel : ∀ behind : List Char, Field.all.tail.length <
      2 * (Json.newLine 1 ++ (Json.quote Field.sourceDir.name ++ behind)).length + 1 := by
    intro behind
    have hcount : Field.all.tail.length = 9 := rfl
    rw [List.length_append, List.length_append, hlength, hcount]
    omega
  rw [htext, hmembers, Json.indentedMembers_cons, List.cons_append, hopen]
  simp only [List.append_assoc, List.cons_append]
  rw [readObject_member hdepth rfl defaults List.not_mem_nil _ 1
      (Json.endsNumber_indentedBehind 0 _ rest) (Json.nextName?_newLine 1 _ _).1,
    readObject_members hdepth hfields hnew _ (hfuel _), ← List.foldl_cons, ← hall,
    foldl_withField_defaults]

include hdepth in
/-- Blanks may follow the text of some settings. -/
theorem parse_render_append {blanks : String}
    (hblanks : ∀ c ∈ blanks.toList, Json.isBlank c = true) :
    parse (source.render ++ blanks) = .ok source := by
  have hend : Json.skipBlank blanks.toList = [] := List.dropWhile_eq_nil_iff.mpr hblanks
  rw [parse, String.toList_append, read_render hdepth]
  simp only [Json.readEnd, hend]
  rfl

include hdepth in
/-- **Settings are read back from their text**, whatever their texts hold. A settings file to which
this text has been written, with a line end or other blanks behind it, is loaded as the settings it
was made from, unless they have a flaw. -/
theorem parse_render :
    parse source.render = .ok source ∧
      ∀ (fs after : FileSystem) (path : Path) (blanks : String),
        (∀ c ∈ blanks.toList, Json.isBlank c = true) →
        fs.writeFile path (source.render ++ blanks).toUTF8 = .ok after →
        ∀ start, find? after start = some path →
          load after start = match source.flaw? with
            | some flaw => .error (.flawed flaw)
            | none => .ok (source, some path) := by
  constructor
  · have hnone : ∀ c ∈ "".toList, Json.isBlank c = true := by simp
    simpa using parse_render_append hdepth hnone
  · intro fs after path blanks hblanks hwrite start hfind
    have hread : after.readText path = .ok (source.render ++ blanks) :=
      FileSystem.readText_eq_ok_iff.mpr (FileSystem.found_of_writeFile_eq_ok hwrite)
    simp only [load, hfind, ofFile, hread, parse_render_append hdepth hblanks]
    cases source.flaw? <;> rfl

end

/-- Settings that hold what is spelled with escapes, the largest limit, and one of the two fields that
may have no value. -/
def rareSettings : Settings where
  sourceDir := "\"a\\b\"\n\t\x01\x7f/"
  sourceFile := some ""
  outputDir := ""
  keysFile := "null"
  messagesFile := "\x7b\u00e9\u2028\x7d,"
  strict := true
  maxDepth := 18446744073709551615

/-- A directory with a settings file. -/
def projectWith (content : String) : FileSystem where
  root := .directory [(fileName.text, .file content.toUTF8)]
  workingDirectory := []

/-- Escapes are undone, a field that is left out stays without a value, and the line end behind the
text of a file changes nothing. -/
theorem parse_render_rareSettings :
    parse rareSettings.render = .ok rareSettings ∧
      load (projectWith (rareSettings.render ++ "\n")) ⟨"/"⟩ =
        .ok (rareSettings, some ⟨"/.glotgenrc.json"⟩) := by
  have hdepth : rareSettings.maxDepth < 2 ^ 64 := by decide
  have hblanks : ∀ c ∈ "\n".toList, Json.isBlank c = true := by simp [Json.isBlank]
  have hwrite : (projectWith "").writeFile ⟨"/.glotgenrc.json"⟩
      (rareSettings.render ++ "\n").toUTF8 = .ok (projectWith (rareSettings.render ++ "\n")) :=
    rfl
  have hfind : find? (projectWith (rareSettings.render ++ "\n")) ⟨"/"⟩ =
      some ⟨"/.glotgenrc.json"⟩ := by
    decide +kernel
  have hflaw : rareSettings.flaw? = none := by decide +kernel
  obtain ⟨hparse, hload⟩ := parse_render hdepth
  refine ⟨hparse, (hload _ _ _ _ hblanks hwrite _ hfind).trans ?_⟩
  rw [hflaw]

end MessageCatalog.Settings
