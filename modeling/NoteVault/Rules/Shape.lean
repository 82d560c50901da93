import NoteVault.Failure
import NoteVault.Text.Basic

namespace NoteVault

open Json

-- Rules as documents: an object with the groups frontmatter, filename and
-- content. Absent parts may be missing or null, and unknown keys are ignored.
abbrev Shaped (α : Type) := Except RulesFault α

-- A field that is present and not null.
def given? (key : String) (fields : List (String × Value)) : Option Value :=
  match Keyed.get? key fields with
  | some .null => none
  | other => other

def objectAt (place : String) : Value → Shaped (List (String × Value))
  | .object fields => .ok fields
  | other => .error (.notAnObject place other.typeName)

def optionalObject (fields : List (String × Value)) (key : String) :
    Shaped (Option (List (String × Value))) :=
  match given? key fields with
  | none => .ok none
  | some value => (objectAt key value).map some

def optionalString (fields : List (String × Value)) (place key : String) :
    Shaped (Option String) :=
  match given? key fields with
  | none => .ok none
  | some (.string text) => .ok (some text)
  | some other => .error (.notAString (place ++ "." ++ key) other.typeName)

def isScalar : Value → Bool
  | .array _ | .object _ => false
  | _ => true

namespace RequiredField

def allowedOfFields (fields : List (String × Value)) (place : String) :
    Shaped (Option (List Value)) :=
  match given? "allowed_values" fields with
  | none => .ok none
  | some (.array values) =>
    match values.find? fun value => !isScalar value with
    | some value => .error (.notAScalar (place ++ ".allowed_values") value.typeName)
    | none => .ok (some values)
  | some other => .error (.notAnArray (place ++ ".allowed_values") other.typeName)

def nameOfFields (fields : List (String × Value)) (place : String) : Shaped String :=
  match Keyed.get? "name" fields with
  | some (.string name) =>
    if Text.isAllBlank name then .error (.unnamedField place) else .ok name
  | _ => .error (.unnamedField place)

def typeOfFields (fields : List (String × Value)) (place : String) : Shaped FieldType :=
  match Keyed.get? "type" fields with
  | some (.string name) =>
    match FieldType.ofName? name with
    | some type => .ok type
    | none => .error (.unknownType place name)
  | _ => .error (.untypedField place)

def place (index : Nat) : String :=
  s!"frontmatter.required_fields[{index}]"

def ofJson (index : Nat) (value : Value) : Shaped RequiredField := do
  let fields ← objectAt (place index) value
  let name ← nameOfFields fields (place index)
  let type ← typeOfFields fields (place index)
  let pattern ← optionalString fields (place index) "pattern"
  let allowedValues ← allowedOfFields fields (place index)
  return ⟨name, type, pattern, allowedValues⟩

-- The fields of a list, numbered from the given index.
def listOfJson (index : Nat) : List Value → Shaped (List RequiredField)
  | [] => .ok []
  | value :: values => do
    let field ← ofJson index value
    let fields ← listOfJson (index + 1) values
    return field :: fields

end RequiredField

def FrontMatterRules.ofFields (fields : List (String × Value)) : Shaped FrontMatterRules :=
  match given? "required_fields" fields with
  | none => .ok ⟨none⟩
  | some (.array values) => do return ⟨some (← RequiredField.listOfJson 0 values)⟩
  | some other => .error (.notAnArray "frontmatter.required_fields" other.typeName)

def FilenameRules.ofFields (fields : List (String × Value)) : Shaped FilenameRules := do
  return ⟨← optionalString fields "filename" "pattern"⟩

namespace ContentRules

def titlesOfJson : List Value → Shaped (List String)
  | [] => .ok []
  | .string title :: values => do return title :: (← titlesOfJson values)
  | other :: _ => .error (.notASection other.typeName)

def titlesOfFields (fields : List (String × Value)) : Shaped (Option (List String)) :=
  match given? "required_sections" fields with
  | none => .ok none
  | some (.array values) => do return some (← titlesOfJson values)
  | some other => .error (.notAnArray "content.required_sections" other.typeName)

def lengthOfFields (fields : List (String × Value)) (key : String) : Shaped (Option Nat) :=
  match given? key fields with
  | none => .ok none
  | some (.number (.integer value)) =>
    if 0 ≤ value then .ok (some value.toNat) else .error (.badLength key)
  | some _ => .error (.badLength key)

def ofFields (fields : List (String × Value)) : Shaped ContentRules := do
  let titles ← titlesOfFields fields
  let least ← lengthOfFields fields "min_length"
  let most ← lengthOfFields fields "max_length"
  return ⟨least, most, titles⟩

end ContentRules

-- A group that is absent stays absent.
def optionalGroup {α β : Type} (read : α → Shaped β) : Option α → Shaped (Option β)
  | none => .ok none
  | some fields => (read fields).map some

-- Reads the shape of rules and does not ask whether patterns compile. The
-- groups are read in the order front matter, filename, content.
def Rules.ofJson (value : Value) : Shaped Rules := do
  let root ← objectAt "rules" value
  let frontMatter ← optionalGroup FrontMatterRules.ofFields (← optionalObject root "frontmatter")
  let filename ← optionalGroup FilenameRules.ofFields (← optionalObject root "filename")
  let content ← optionalGroup ContentRules.ofFields (← optionalObject root "content")
  return ⟨frontMatter, filename, content⟩

-- The field of an object for a part that may be absent.
def optionalField {α : Type} (key : String) (toJson : α → Value) (part : Option α) :
    List (String × Value) :=
  part.toList.map fun part => (key, toJson part)

def RequiredField.toJson (field : RequiredField) : Value :=
  .ofFields <| [("name", .string field.name), ("type", .string field.type.name)] ++
    optionalField "pattern" .string field.pattern ++
    optionalField "allowed_values" .array field.allowedValues

def FrontMatterRules.toJson (group : FrontMatterRules) : Value :=
  .ofFields <| optionalField "required_fields"
    (fun fields => .array (fields.map RequiredField.toJson)) group.requiredFields

def FilenameRules.toJson (group : FilenameRules) : Value :=
  .ofFields <| optionalField "pattern" .string group.pattern

def ContentRules.toJson (group : ContentRules) : Value :=
  .ofFields <| optionalField "min_length" .ofNat group.minLength ++
    optionalField "max_length" .ofNat group.maxLength ++
    optionalField "required_sections" (fun titles => .array (titles.map .string))
      group.requiredSections

-- The document form of rules, without the parts that are absent.
def Rules.toJson (rules : Rules) : Value :=
  .ofFields <| optionalField "frontmatter" FrontMatterRules.toJson rules.frontMatter ++
    optionalField "filename" FilenameRules.toJson rules.filename ++
    optionalField "content" ContentRules.toJson rules.content

end NoteVault
