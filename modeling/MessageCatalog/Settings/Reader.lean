import MessageCatalog.Json.Skip
import MessageCatalog.Json.Typed
import MessageCatalog.Settings

/-!
# Reading settings

A settings file holds an object, or a list of the values of all fields in order, of which the last
ones may be missing. Fields that are not known are skipped, and fields that are not given have their
defaults.

## Main definitions

* `Settings.Fault` — why a text does not hold settings.
* `Settings.readField` — reads the value of one field.
* `Settings.readObject`, `Settings.readList` — the two forms.
* `Settings.parse` — reads a text that holds settings.
-/

namespace MessageCatalog.Settings

open Json (Read Stop lift)

/-- Why a text does not hold settings. -/
inductive Fault where
  | value (fault : Json.TypeFault)
  | repeated (field : Field)
  deriving DecidableEq, Repr

/-- The wording of a fault. -/
def Fault.message : Fault → String
  | .value fault => fault.message
  | .repeated field => "duplicate field `" ++ field.name ++ "`"

/-- A step that only deals with values. -/
def ofValue {α : Type} : Except (Stop Json.TypeFault) α → Except (Stop Fault) α
  | .ok result => .ok result
  | .error stop => .error (stop.map .value)

/-- Reads the value of a field into some settings. -/
def readField (settings : Settings) (field : Field) (cs : List Char) :
    Read Json.TypeFault Settings :=
  match field with
  | .sourceDir => Read.map (fun v => { settings with sourceDir := v }) (Json.readString cs)
  | .sourceFile =>
    Read.map (fun v => { settings with sourceFile := v }) (Json.readOptionalString cs)
  | .outputDir => Read.map (fun v => { settings with outputDir := v }) (Json.readString cs)
  | .keysFile => Read.map (fun v => { settings with keysFile := v }) (Json.readString cs)
  | .messagesFile => Read.map (fun v => { settings with messagesFile := v }) (Json.readString cs)
  | .referenceLocale =>
    Read.map (fun v => { settings with referenceLocale := v }) (Json.readOptionalString cs)
  | .strict => Read.map (fun v => { settings with strict := v }) (Json.readFlag cs)
  | .skipBranchKeys => Read.map (fun v => { settings with skipBranchKeys := v }) (Json.readFlag cs)
  | .maxDepth => Read.map (fun v => { settings with maxDepth := v }) (Json.readNatural cs)
  | .runtimePath => Read.map (fun v => { settings with runtimePath := v }) (Json.readString cs)

/-- The stop for a field that is given again. The place is behind the blanks that follow its name,
and behind the bracket that closes the object if it is there. -/
def stopAtRepeated (field : Field) (cs : List Char) : Stop Fault :=
  match Json.skipBlank cs with
  | '}' :: rest => .before (.repeated field) rest
  | rest => .before (.repeated field) rest

/-- Reads the value of a field that is not known, and forgets it. -/
def skipField (cs : List Char) : Except (Stop Json.Fault) (List Char) :=
  match Json.readColon cs with
  | .error stop => .error stop
  | .ok rest => Json.skipValue (Json.fuelFor rest) rest

/-- Reads a colon and the value of a field that is known. -/
def readKnown (settings : Settings) (field : Field) (cs : List Char) :
    Read Json.TypeFault Settings :=
  match Json.readColon cs with
  | .error stop => .error (stop.map .json)
  | .ok rest => settings.readField field rest

/-- Reads the members of an object and its closing bracket, given the fields read so far. -/
def readObject : Nat → Bool → List Field → Settings → List Char → Read Fault Settings
  | 0, _, _, _, cs => .error (.before (.value (.json .endOfObject)) cs)
  | fuel + 1, isFirst, seen, settings, cs =>
    match Json.nextName? isFirst cs with
    | .error stop => .error (stop.map fun fault => .value (.json fault))
    | .ok none => ofValue (lift ((Json.closeObject cs).map fun rest => (settings, rest)))
    | .ok (some (name, rest)) =>
      match Field.ofName? name with
      | none =>
        match skipField rest with
        | .error stop => .error (stop.map fun fault => .value (.json fault))
        | .ok rest => readObject fuel false seen settings rest
      | some field =>
        if seen.contains field then .error (stopAtRepeated field rest)
        else
          match settings.readKnown field rest with
          | .error stop => .error (stop.map .value)
          | .ok (settings, rest) => readObject fuel false (field :: seen) settings rest

/-- Reads the elements of a list and its closing bracket, given the fields that are left. -/
def readList (isFirst : Bool) (settings : Settings) :
    List Field → List Char → Read Json.TypeFault Settings
  | [], cs => lift ((Json.closeList cs).map fun rest => (settings, rest))
  | field :: fields, cs =>
    match Json.nextElement? isFirst cs with
    | .error stop => .error (stop.map .json)
    | .ok none => lift ((Json.closeList cs).map fun rest => (settings, rest))
    | .ok (some rest) =>
      match settings.readField field rest with
      | .error stop => .error stop
      | .ok (settings, rest) => readList false settings fields rest

/-- Reads settings at the front of a text. -/
def read (cs : List Char) : Read Fault Settings :=
  match Json.skipBlank cs with
  | '{' :: rest => readObject (Json.fuelFor rest) true [] defaults rest
  | '[' :: rest => ofValue (readList true defaults Field.all rest)
  | cs => .error ((Json.refuse (.record "Config") cs).map .value)

/-- Reads a text that holds settings and nothing else but blanks. -/
def parse (text : String) : Except (Stop Fault) Settings :=
  match read text.toList with
  | .error stop => .error stop
  | .ok (settings, rest) => ofValue (lift ((Json.readEnd rest).map fun _ => settings))

end MessageCatalog.Settings
