import Mathlib.Data.List.Forall2
import NoteVault.Proofs.Rules.RoundTrip
import NoteVault.Rules.Check

namespace NoteVault

open Json

-- Documents that say the same to a reader of objects with the given parts, where each
-- part has a likeness of its own. Other fields say nothing, and null says as much as a
-- missing field.
def ObjectsAlike (parts : List (String × (Value → Value → Prop))) : Value → Value → Prop
  | .object fields, .object others =>
    ∀ part ∈ parts, Option.Rel part.2 (given? part.1 fields) (given? part.1 others)
  | value, other => value = other

def ItemsAlike (alike : Value → Value → Prop) : Value → Value → Prop
  | .array values, .array others => List.Forall₂ alike values others
  | value, other => value = other

-- A null among the allowed values is one of them.
def RequiredField.Alike : Value → Value → Prop :=
  ObjectsAlike [("name", (· = ·)), ("type", (· = ·)), ("pattern", (· = ·)),
    ("allowed_values", (· = ·))]

def FrontMatterRules.Alike : Value → Value → Prop :=
  ObjectsAlike [("required_fields", ItemsAlike RequiredField.Alike)]

def FilenameRules.Alike : Value → Value → Prop :=
  ObjectsAlike [("pattern", (· = ·))]

def ContentRules.Alike : Value → Value → Prop :=
  ObjectsAlike [("min_length", (· = ·)), ("max_length", (· = ·)), ("required_sections", (· = ·))]

-- Documents of rules that differ in unknown fields and in nulls only.
def Rules.Alike : Value → Value → Prop :=
  ObjectsAlike [("frontmatter", FrontMatterRules.Alike), ("filename", FilenameRules.Alike),
    ("content", ContentRules.Alike)]

section

variable {α β : Type} {parts : List (String × (Value → Value → Prop))} {value other : Value}
  {fields others : List (String × Value)} {key place : String}

@[simp] theorem objectsAlike_nil : ObjectsAlike [] (.object fields) (.object others) :=
  List.forall_mem_nil _

@[simp] theorem objectsAlike_cons (part : String × (Value → Value → Prop)) :
    ObjectsAlike (part :: parts) (.object fields) (.object others) ↔
      Option.Rel part.2 (given? part.1 fields) (given? part.1 others) ∧
        ObjectsAlike parts (.object fields) (.object others) :=
  List.forall_mem_cons

-- What is read of the fields of an object is read of those of the other one.
theorem ObjectsAlike.bind_objectAt (h : ObjectsAlike parts value other)
    {read : List (String × Value) → Shaped α}
    (hread : ∀ fields others, ObjectsAlike parts (.object fields) (.object others) →
      read fields = read others) :
    objectAt place value >>= read = objectAt place other >>= read := by
  cases value with
  | object fields =>
      cases other with
      | object others => exact hread fields others h
      | null | bool | number | string | array => cases h
  | null | bool | number | string | array => rw [show _ = other from h]

theorem optionRel_eq_iff {left right : Option α} : Option.Rel (· = ·) left right ↔ left = right := by
  constructor
  · rintro (rfl | _)
    · rfl
    · rfl
  · rintro rfl
    cases left with
    | none => exact .none
    | some part => exact .some rfl

theorem optionalGroup_congr
    (h : Option.Rel (ObjectsAlike parts) (given? key fields) (given? key others))
    {read : List (String × Value) → Shaped β}
    (hread : ∀ fields others, ObjectsAlike parts (.object fields) (.object others) →
      read fields = read others) :
    optionalObject fields key >>= optionalGroup read = optionalObject others key >>= optionalGroup read := by
  have hpart : ∀ value, (objectAt key value).map some >>= optionalGroup read =
      (objectAt key value >>= read).map some := by
    intro value
    cases objectAt key value <;> rfl
  rw [optionalObject, optionalObject]
  generalize given? key fields = found, given? key others = other at h
  cases h with
  | none => rfl
  | some h =>
      dsimp only
      rw [hpart, hpart, h.bind_objectAt hread]

end

namespace RequiredField

variable {fields others values : List (String × Value)}

-- A name or a type that is null is as wrong as a missing one.
theorem nameOfFields_eq (fields : List (String × Value)) (place : String) :
    nameOfFields fields place =
      match given? "name" fields with
      | some (.string name) =>
        if Text.isAllBlank name then .error (.unnamedField place) else .ok name
      | _ => .error (.unnamedField place) := by
  rw [nameOfFields, given?]
  rcases Keyed.get? "name" fields with _ | _ | _ | _ | _ | _ | _ <;> rfl

theorem typeOfFields_eq (fields : List (String × Value)) (place : String) :
    typeOfFields fields place =
      match given? "type" fields with
      | some (.string name) =>
        match FieldType.ofName? name with
        | some type => .ok type
        | none => .error (.unknownType place name)
      | _ => .error (.untypedField place) := by
  rw [typeOfFields, given?]
  rcases Keyed.get? "type" fields with _ | _ | _ | _ | _ | _ | _ <;> rfl

theorem ofJson_congr {value other : Value} (h : RequiredField.Alike value other) (index : Nat) :
    ofJson index value = ofJson index other := by
  refine h.bind_objectAt fun fields others hparts => ?_
  simp only [objectsAlike_cons, objectsAlike_nil, and_true, optionRel_eq_iff] at hparts
  obtain ⟨hname, htype, hpattern, hallowed⟩ := hparts
  simp only [nameOfFields_eq, typeOfFields_eq, optionalString, allowedOfFields, hname, htype, hpattern,
    hallowed]

theorem listOfJson_congr {values others : List Value} (h : List.Forall₂ RequiredField.Alike values others)
    (index : Nat) : listOfJson index values = listOfJson index others := by
  induction h generalizing index with
  | nil => rfl
  | cons hfirst _ ih => rw [listOfJson, listOfJson, ofJson_congr hfirst, ih]

end RequiredField

theorem FrontMatterRules.ofFields_congr {fields others : List (String × Value)}
    (h : FrontMatterRules.Alike (.object fields) (.object others)) : ofFields fields = ofFields others := by
  obtain ⟨hitems, -⟩ := (objectsAlike_cons _).mp h
  rw [ofFields, ofFields]
  generalize given? "required_fields" fields = found, given? "required_fields" others = other at hitems
  cases hitems with
  | none => rfl
  | @some found other hitems =>
      cases found with
      | array values =>
          cases other with
          | array others =>
              dsimp only
              rw [RequiredField.listOfJson_congr hitems]
          | null | bool | number | string | object => cases hitems
      | null | bool | number | string | object => rw [show _ = other from hitems]

theorem FilenameRules.ofFields_congr {fields others : List (String × Value)}
    (h : FilenameRules.Alike (.object fields) (.object others)) : ofFields fields = ofFields others := by
  simp only [FilenameRules.Alike, objectsAlike_cons, objectsAlike_nil, and_true, optionRel_eq_iff] at h
  rw [ofFields, ofFields, optionalString, optionalString, h]

theorem ContentRules.ofFields_congr {fields others : List (String × Value)}
    (h : ContentRules.Alike (.object fields) (.object others)) : ofFields fields = ofFields others := by
  simp only [ContentRules.Alike, objectsAlike_cons, objectsAlike_nil, and_true, optionRel_eq_iff] at h
  obtain ⟨hleast, hmost, htitles⟩ := h
  simp only [ofFields, titlesOfFields, lengthOfFields, hleast, hmost, htitles]

-- Each group is found and read before the next one.
theorem Rules.ofJson_eq (value : Value) :
    ofJson value = (do
      let root ← objectAt "rules" value
      let frontMatter ← optionalObject root "frontmatter" >>= optionalGroup FrontMatterRules.ofFields
      let filename ← optionalObject root "filename" >>= optionalGroup FilenameRules.ofFields
      let content ← optionalObject root "content" >>= optionalGroup ContentRules.ofFields
      return ⟨frontMatter, filename, content⟩) := by
  simp only [ofJson, bind_assoc]

-- Rules depend on nothing in which documents may differ that are alike.
theorem Rules.ofJson_congr {value other : Value} (h : Rules.Alike value other) :
    ofJson value = ofJson other := by
  rw [ofJson_eq, ofJson_eq]
  refine h.bind_objectAt fun root others hparts => ?_
  simp only [objectsAlike_cons, objectsAlike_nil, and_true] at hparts
  obtain ⟨hfront, hname, hcontent⟩ := hparts
  rw [optionalGroup_congr hfront fun _ _ => FrontMatterRules.ofFields_congr,
    optionalGroup_congr hname fun _ _ => FilenameRules.ofFields_congr,
    optionalGroup_congr hcontent fun _ _ => ContentRules.ofFields_congr]

theorem Rules.checkedOfJson_congr {value other : Value} (h : Rules.Alike value other) :
    checkedOfJson value = checkedOfJson other := by
  rw [checkedOfJson, checkedOfJson, ofJson_congr h]

-- What is read, and what is then written, is what was given.
section

variable {fields : List (String × Value)} {place key : String}

theorem given?_of_optionalString {part : Option String} (h : optionalString fields place key = .ok part) :
    given? key fields = part.map .string := by
  rw [optionalString] at h
  split at h
  · obtain rfl := Except.ok.inj h
    assumption
  · obtain rfl := Except.ok.inj h
    assumption
  · cases h

theorem RequiredField.given?_of_nameOfFields {name : String} (h : nameOfFields fields place = .ok name) :
    given? "name" fields = some (.string name) := by
  rw [nameOfFields_eq] at h
  split at h
  · split at h
    · cases h
    · obtain rfl := Except.ok.inj h
      assumption
  · cases h

theorem FieldType.name_of_ofName? {name : String} {type : FieldType} (h : ofName? name = some type) :
    type.name = name := by
  unfold ofName? at h
  split_ifs at h with hstring hnumber hboolean hdate harray <;> obtain rfl := Option.some.inj h
  · exact hstring.symm
  · exact hnumber.symm
  · exact hboolean.symm
  · exact hdate.symm
  · exact harray.symm

theorem RequiredField.given?_of_typeOfFields {type : FieldType} (h : typeOfFields fields place = .ok type) :
    given? "type" fields = some (.string type.name) := by
  rw [typeOfFields_eq] at h
  split at h
  · split at h
    · rename_i name hgiven _ found hfound
      obtain rfl := Except.ok.inj h
      rw [hgiven, FieldType.name_of_ofName? hfound]
    · cases h
  · cases h

theorem RequiredField.given?_of_allowedOfFields {allowed : Option (List Value)}
    (h : allowedOfFields fields place = .ok allowed) :
    given? "allowed_values" fields = allowed.map .array := by
  rw [allowedOfFields] at h
  split at h
  · obtain rfl := Except.ok.inj h
    assumption
  · split at h
    · cases h
    · obtain rfl := Except.ok.inj h
      assumption
  · cases h

theorem ContentRules.given?_of_lengthOfFields {length : Option Nat}
    (h : lengthOfFields fields key = .ok length) : given? key fields = length.map .ofNat := by
  rw [lengthOfFields] at h
  split at h
  · obtain rfl := Except.ok.inj h
    assumption
  · rename_i value hgiven
    split at h
    · rename_i hnonneg
      obtain rfl := Except.ok.inj h
      rw [hgiven, Option.map_some, Value.ofNat, Int.toNat_of_nonneg hnonneg]
    · cases h
  · cases h

theorem ContentRules.eq_of_titlesOfJson {values : List Value} {titles : List String}
    (h : titlesOfJson values = .ok titles) : values = titles.map .string := by
  induction values generalizing titles with
  | nil =>
      obtain rfl := Except.ok.inj h
      rfl
  | cons value values ih =>
      cases value with
      | string title =>
          obtain ⟨others, hothers, h⟩ := exists_of_bind_eq_ok h
          obtain rfl := Except.ok.inj h
          rw [List.map_cons, ih hothers]
      | null | bool | number | array | object => cases h

theorem ContentRules.given?_of_titlesOfFields {titles : Option (List String)}
    (h : titlesOfFields fields = .ok titles) :
    given? "required_sections" fields = titles.map fun titles => .array (titles.map .string) := by
  rw [titlesOfFields] at h
  split at h
  · obtain rfl := Except.ok.inj h
    assumption
  · rename_i values hgiven
    obtain ⟨found, hfound, h⟩ := exists_of_bind_eq_ok h
    obtain rfl := Except.ok.inj h
    rw [hgiven, Option.map_some, eq_of_titlesOfJson hfound]
  · cases h

end

-- No null is written.
theorem RequiredField.given?_toFields (field : RequiredField) (key : String) :
    given? key field.toFields = Keyed.get? key field.toFields := by
  rw [given?, get?_toFields]
  rcases field with ⟨name, type, _ | pattern, _ | allowed⟩ <;> split_ifs <;> rfl

theorem ContentRules.given?_toFields (group : ContentRules) (key : String) :
    given? key group.toFields = Keyed.get? key group.toFields := by
  rw [given?, get?_toFields]
  rcases group with ⟨_ | least, _ | most, _ | titles⟩ <;> split_ifs <;> rfl

theorem Rules.given?_toFields (rules : Rules) (key : String) :
    given? key rules.toFields = Keyed.get? key rules.toFields := by
  rw [given?, get?_toFields]
  rcases rules with ⟨_ | front, _ | name, _ | content⟩ <;> split_ifs <;> rfl

-- What is written of rules is what they were read of, without the unknown fields and
-- the nulls.
theorem RequiredField.alike_toJson {index : Nat} {value : Value} {field : RequiredField}
    (h : ofJson index value = .ok field) : RequiredField.Alike value field.toJson := by
  obtain ⟨fields, hobject, h⟩ := exists_of_bind_eq_ok h
  obtain ⟨name, hname, h⟩ := exists_of_bind_eq_ok h
  obtain ⟨type, htype, h⟩ := exists_of_bind_eq_ok h
  obtain ⟨pattern, hpattern, h⟩ := exists_of_bind_eq_ok h
  obtain ⟨allowed, hallowed, h⟩ := exists_of_bind_eq_ok h
  obtain rfl := Except.ok.inj h
  obtain rfl := objectAt_eq_ok hobject
  rw [RequiredField.Alike, show toJson _ = .object (toFields _) from rfl]
  simp only [objectsAlike_cons, objectsAlike_nil, and_true, optionRel_eq_iff, given?_of_nameOfFields hname,
    given?_of_typeOfFields htype, given?_of_optionalString hpattern, given?_of_allowedOfFields hallowed]
  simp only [given?_toFields, get?_toFields, String.reduceEq, if_false, if_true, Option.or_none, and_self]

theorem RequiredField.alike_of_listOfJson {index : Nat} {values : List Value} {found : List RequiredField}
    (h : listOfJson index values = .ok found) :
    List.Forall₂ RequiredField.Alike values (found.map toJson) := by
  induction values generalizing index found with
  | nil =>
      obtain rfl := Except.ok.inj h
      exact .nil
  | cons value values ih =>
      obtain ⟨first, hfirst, h⟩ := exists_of_bind_eq_ok h
      obtain ⟨others, hothers, h⟩ := exists_of_bind_eq_ok h
      obtain rfl := Except.ok.inj h
      exact .cons (alike_toJson hfirst) (ih hothers)

theorem FrontMatterRules.alike_toJson {fields : List (String × Value)} {group : FrontMatterRules}
    (h : ofFields fields = .ok group) : FrontMatterRules.Alike (.object fields) group.toJson := by
  rw [FrontMatterRules.Alike, show toJson _ = .object (toFields _) from rfl, objectsAlike_cons, toFields,
    given?_of_get? (get?_optionalField_self _ _ _) fun _ => Value.noConfusion]
  refine ⟨?_, objectsAlike_nil⟩
  rw [ofFields] at h
  split at h
  · rename_i hgiven
    obtain rfl := Except.ok.inj h
    rw [hgiven]
    exact .none
  · rename_i values hgiven
    obtain ⟨found, hfound, h⟩ := exists_of_bind_eq_ok h
    obtain rfl := Except.ok.inj h
    rw [hgiven]
    exact .some (RequiredField.alike_of_listOfJson hfound)
  · cases h

theorem FilenameRules.alike_toJson {fields : List (String × Value)} {group : FilenameRules}
    (h : ofFields fields = .ok group) : FilenameRules.Alike (.object fields) group.toJson := by
  obtain ⟨pattern, hpattern, h⟩ := exists_of_bind_eq_ok h
  obtain rfl := Except.ok.inj h
  rw [FilenameRules.Alike, show toJson _ = .object (toFields _) from rfl, objectsAlike_cons, toFields,
    given?_of_get? (get?_optionalField_self _ _ _) fun _ => Value.noConfusion,
    given?_of_optionalString hpattern]
  exact ⟨optionRel_eq_iff.mpr rfl, objectsAlike_nil⟩

theorem ContentRules.alike_toJson {fields : List (String × Value)} {group : ContentRules}
    (h : ofFields fields = .ok group) : ContentRules.Alike (.object fields) group.toJson := by
  obtain ⟨titles, htitles, h⟩ := exists_of_bind_eq_ok h
  obtain ⟨least, hleast, h⟩ := exists_of_bind_eq_ok h
  obtain ⟨most, hmost, h⟩ := exists_of_bind_eq_ok h
  obtain rfl := Except.ok.inj h
  rw [ContentRules.Alike, show toJson _ = .object (toFields _) from rfl]
  simp only [objectsAlike_cons, objectsAlike_nil, and_true, optionRel_eq_iff,
    given?_of_lengthOfFields hleast, given?_of_lengthOfFields hmost, given?_of_titlesOfFields htitles]
  simp only [given?_toFields, get?_toFields, String.reduceEq, if_false, if_true, Option.or_none, and_self]

theorem alike_of_optionalGroup {β : Type} {alike : Value → Value → Prop}
    {read : List (String × Value) → Shaped β} {write : β → Value} {fields : List (String × Value)}
    {key : String} {part : Option β}
    (h : optionalObject fields key >>= optionalGroup read = .ok part)
    (hread : ∀ fields group, read fields = .ok group → alike (.object fields) (write group)) :
    Option.Rel alike (given? key fields) (part.map write) := by
  obtain ⟨found, hfound, h⟩ := exists_of_bind_eq_ok h
  rw [optionalObject] at hfound
  split at hfound
  · rename_i hgiven
    obtain rfl := Except.ok.inj hfound
    obtain rfl := Except.ok.inj h
    rw [hgiven]
    exact .none
  · rename_i value hgiven
    obtain ⟨others, hobject, rfl⟩ := exists_of_map_eq_ok hfound
    obtain ⟨group, hgroup, rfl⟩ := exists_of_map_eq_ok h
    rw [hgiven, objectAt_eq_ok hobject]
    exact .some (hread others group hgroup)

theorem Rules.alike_toJson {value : Value} {rules : Rules} (h : ofJson value = .ok rules) :
    Rules.Alike value rules.toJson := by
  rw [ofJson_eq] at h
  obtain ⟨root, hroot, h⟩ := exists_of_bind_eq_ok h
  obtain ⟨front, hfront, h⟩ := exists_of_bind_eq_ok h
  obtain ⟨name, hname, h⟩ := exists_of_bind_eq_ok h
  obtain ⟨content, hcontent, h⟩ := exists_of_bind_eq_ok h
  obtain rfl := Except.ok.inj h
  obtain rfl := objectAt_eq_ok hroot
  rw [Rules.Alike, show toJson _ = .object (toFields _) from rfl]
  simp only [objectsAlike_cons, objectsAlike_nil, and_true, given?_toFields, get?_toFields,
    String.reduceEq, if_false, if_true, Option.or_none]
  exact ⟨alike_of_optionalGroup hfront fun _ _ => FrontMatterRules.alike_toJson,
    alike_of_optionalGroup hname fun _ _ => FilenameRules.alike_toJson,
    alike_of_optionalGroup hcontent fun _ _ => ContentRules.alike_toJson⟩

end NoteVault
