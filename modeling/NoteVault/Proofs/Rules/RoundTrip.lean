import NoteVault.Proofs.Rules.Shape

namespace NoteVault

open Json

namespace Keyed

variable {ν : Type}

theorem get?_ofList_append (key : String) (entries : List (String × ν)) (entry : String × ν) :
    get? key (ofList (entries ++ [entry])) =
      if key = entry.1 then some entry.2 else get? key (ofList entries) := by
  rw [ofList, List.foldl_append, List.foldl_cons, List.foldl_nil, get?_insert]
  rfl

theorem get?_ofList_nil (key : String) : get? key (ofList ([] : List (String × ν))) = none := rfl

end Keyed

variable {α : Type} {fields : List (String × Value)} {place key : String}

-- A part that may be absent is found under its key, and no other part is hidden by it.
theorem get?_optionalField (key other : String) (toJson : α → Value) (part : Option α)
    (entries : List (String × Value)) :
    Keyed.get? key (Keyed.ofList (entries ++ optionalField other toJson part)) =
      if key = other then (part.map toJson).or (Keyed.get? key (Keyed.ofList entries))
      else Keyed.get? key (Keyed.ofList entries) := by
  cases part with
  | none =>
      rw [optionalField, Option.toList_none, List.map_nil, List.append_nil, Option.map_none,
        Option.none_or, ite_self]
  | some part =>
      rw [optionalField, Option.toList_some, List.map_singleton, Keyed.get?_ofList_append,
        Option.map_some, Option.some_or]

theorem get?_optionalField_self (key : String) (toJson : α → Value) (part : Option α) :
    Keyed.get? key (Keyed.ofList (optionalField key toJson part)) = part.map toJson := by
  have hget := get?_optionalField key key toJson part []
  rwa [if_pos rfl, Keyed.get?_ofList_nil, Option.or_none] at hget

section

variable {part : Option α} {toJson : α → Value}

theorem given?_of_get? (h : Keyed.get? key fields = part.map toJson)
    (hnull : ∀ part, toJson part ≠ .null) : given? key fields = part.map toJson := by
  rw [given?, h]
  cases part with
  | none => rfl
  | some part =>
      rw [Option.map_some]
      split
      · exact absurd (Option.some.inj ‹_›) (hnull part)
      · rfl

theorem optionalObject_of_get? {fieldsOf : α → List (String × Value)}
    (h : Keyed.get? key fields = part.map fun part => .object (fieldsOf part)) :
    optionalObject fields key = .ok (part.map fieldsOf) := by
  rw [optionalObject, given?_of_get? h fun _ => Value.noConfusion]
  cases part <;> rfl

theorem optionalString_of_get? {part : Option String}
    (h : Keyed.get? key fields = part.map .string) : optionalString fields place key = .ok part := by
  rw [optionalString, given?_of_get? h fun _ => Value.noConfusion]
  cases part <;> rfl

end

namespace RequiredField

-- The first allowed value that is no scalar.
def nested? (field : RequiredField) : Option Value :=
  field.allowedValues.bind fun values => values.find? fun value => !isScalar value

theorem nested?_eq_none_iff (field : RequiredField) :
    field.nested? = none ↔ ∀ values, field.allowedValues = some values →
      ∀ value ∈ values, isScalar value = true := by
  rw [nested?]
  cases field.allowedValues with
  | none => simp
  | some values => simp [List.find?_eq_none]

-- The complaint about the first field, counted from the given index, that allows a value
-- that is no scalar.
def scalarFault? (index : Nat) : List RequiredField → Option RulesFault
  | [] => none
  | field :: fields =>
    match field.nested? with
    | some value => some (.notAScalar (RequiredField.place index ++ ".allowed_values") value.typeName)
    | none => scalarFault? (index + 1) fields

theorem scalarFault?_eq_none_iff (index : Nat) (fields : List RequiredField) :
    scalarFault? index fields = none ↔ ∀ field ∈ fields, field.nested? = none := by
  induction fields generalizing index with
  | nil => simp [scalarFault?]
  | cons field fields ih =>
      rw [scalarFault?, List.forall_mem_cons, ← ih (index + 1)]
      cases field.nested? <;> simp

theorem allowedOfFields_of_get? {field : RequiredField}
    (h : Keyed.get? "allowed_values" fields = field.allowedValues.map .array) :
    allowedOfFields fields place =
      match field.nested? with
      | some value => .error (.notAScalar (place ++ ".allowed_values") value.typeName)
      | none => .ok field.allowedValues := by
  rw [allowedOfFields, given?_of_get? h fun _ => Value.noConfusion, nested?]
  cases field.allowedValues with
  | none => rfl
  | some values =>
      cases hfind : values.find? fun value => !isScalar value <;>
        simp only [Option.map_some, Option.bind_some, hfind]

-- The fields of a field requirement when it is written.
def toFields (field : RequiredField) : List (String × Value) :=
  Keyed.ofList ([("name", .string field.name), ("type", .string field.type.name)] ++
    optionalField "pattern" .string field.pattern ++
    optionalField "allowed_values" .array field.allowedValues)

theorem get?_toFields (field : RequiredField) (key : String) :
    Keyed.get? key field.toFields =
      if key = "allowed_values" then (field.allowedValues.map .array).or none
      else if key = "pattern" then (field.pattern.map .string).or none
      else if key = "type" then some (.string field.type.name)
      else if key = "name" then some (.string field.name) else none := by
  have hbase : Keyed.get? key (Keyed.ofList
      [("name", Value.string field.name), ("type", .string field.type.name)]) =
      if key = "type" then some (.string field.type.name)
      else if key = "name" then some (.string field.name) else none := by
    rw [← List.singleton_append, Keyed.get?_ofList_append, ← List.nil_append [_],
      Keyed.get?_ofList_append, Keyed.get?_ofList_nil]
  rw [toFields, get?_optionalField, get?_optionalField, hbase]
  split
  · rename_i hallowed
    subst hallowed
    rfl
  · split
    · rename_i hpattern
      subst hpattern
      rfl
    · rfl

theorem ofJson_toJson {field : RequiredField} (hnamed : Text.isAllBlank field.name = false)
    (index : Nat) :
    ofJson index field.toJson =
      match field.nested? with
      | some value => .error (.notAScalar (RequiredField.place index ++ ".allowed_values") value.typeName)
      | none => .ok field := by
  have hname : nameOfFields field.toFields (place index) = .ok field.name := by
    rw [nameOfFields, get?_toFields]
    simp only [String.reduceEq, if_false, if_true, hnamed, Bool.false_eq_true]
  have htype : typeOfFields field.toFields (place index) = .ok field.type := by
    rw [typeOfFields, get?_toFields]
    simp only [String.reduceEq, if_false, if_true, FieldType.ofName?_name]
  have hpattern : optionalString field.toFields (place index) "pattern" = .ok field.pattern := by
    refine optionalString_of_get? ?_
    rw [get?_toFields]
    simp only [String.reduceEq, if_false, if_true, Option.or_none]
  have hallowed : Keyed.get? "allowed_values" field.toFields = field.allowedValues.map .array := by
    rw [get?_toFields]
    simp only [if_true, Option.or_none]
  simp only [ofJson, show field.toJson = .object field.toFields from rfl, objectAt, bind,
    Except.bind, hname, htype, hpattern, allowedOfFields_of_get? hallowed]
  cases field.nested? <;> rfl

-- The fields are read one after the other, up to the first that allows too much.
theorem listOfJson_toJson {found : List RequiredField}
    (hnamed : ∀ field ∈ found, Text.isAllBlank field.name = false) (index : Nat) :
    listOfJson index (found.map toJson) =
      match scalarFault? index found with
      | some fault => .error fault
      | none => .ok found := by
  induction found generalizing index with
  | nil => rfl
  | cons field found ih =>
      obtain ⟨hfield, hfound⟩ := List.forall_mem_cons.mp hnamed
      simp only [List.map_cons, listOfJson, bind, Except.bind, ofJson_toJson hfield, ih hfound,
        scalarFault?]
      cases field.nested? with
      | some value => rfl
      | none => cases scalarFault? (index + 1) found <;> rfl

end RequiredField

-- The fields of each group when it is written.
def FrontMatterRules.toFields (group : FrontMatterRules) : List (String × Value) :=
  Keyed.ofList (optionalField "required_fields"
    (fun fields => .array (fields.map RequiredField.toJson)) group.requiredFields)

theorem FrontMatterRules.ofFields_toFields {group : FrontMatterRules}
    (hnamed : ∀ field ∈ group.requiredFields.getD [], Text.isAllBlank field.name = false) :
    ofFields group.toFields =
      match RequiredField.scalarFault? 0 (group.requiredFields.getD []) with
      | some fault => .error fault
      | none => .ok group := by
  obtain ⟨found⟩ := group
  rw [ofFields, toFields, given?_of_get? (get?_optionalField_self _ _ _) fun _ => Value.noConfusion]
  cases found with
  | none => rfl
  | some found =>
      have hfound : ∀ field ∈ found, Text.isAllBlank field.name = false := hnamed
      simp only [Option.map_some, RequiredField.listOfJson_toJson hfound, Option.getD_some]
      cases RequiredField.scalarFault? 0 found <;> rfl

def FilenameRules.toFields (group : FilenameRules) : List (String × Value) :=
  Keyed.ofList (optionalField "pattern" .string group.pattern)

theorem FilenameRules.ofFields_toFields (group : FilenameRules) :
    ofFields group.toFields = .ok group := by
  have hpattern : optionalString group.toFields "filename" "pattern" = .ok group.pattern :=
    optionalString_of_get? (get?_optionalField_self "pattern" .string group.pattern)
  simp only [ofFields, bind, Except.bind, hpattern]
  rfl

namespace ContentRules

def toFields (group : ContentRules) : List (String × Value) :=
  Keyed.ofList (optionalField "min_length" .ofNat group.minLength ++
    optionalField "max_length" .ofNat group.maxLength ++
    optionalField "required_sections" (fun titles => .array (titles.map .string))
      group.requiredSections)

theorem titlesOfJson_string (titles : List String) :
    titlesOfJson (titles.map .string) = .ok titles := by
  induction titles with
  | nil => rfl
  | cons title titles ih =>
      simp only [List.map_cons, titlesOfJson, bind, Except.bind, ih]
      rfl

theorem lengthOfFields_of_get? {part : Option Nat} (h : Keyed.get? key fields = part.map .ofNat) :
    lengthOfFields fields key = .ok part := by
  rw [lengthOfFields, given?_of_get? h fun _ => Value.noConfusion]
  cases part with
  | none => rfl
  | some length =>
      simp only [Option.map_some, Value.ofNat]
      rw [if_pos (Int.natCast_nonneg length), Int.toNat_natCast]

theorem titlesOfFields_of_get? {part : Option (List String)}
    (h : Keyed.get? "required_sections" fields =
      part.map fun titles => .array (titles.map .string)) :
    titlesOfFields fields = .ok part := by
  rw [titlesOfFields, given?_of_get? h fun _ => Value.noConfusion]
  cases part with
  | none => rfl
  | some titles =>
      simp only [Option.map_some, titlesOfJson_string]
      rfl

theorem get?_toFields (group : ContentRules) (key : String) :
    Keyed.get? key group.toFields =
      if key = "required_sections" then
        (group.requiredSections.map fun titles => .array (titles.map .string)).or none
      else if key = "max_length" then (group.maxLength.map .ofNat).or none
      else if key = "min_length" then (group.minLength.map .ofNat).or none else none := by
  have hleast := get?_optionalField key "min_length" .ofNat group.minLength []
  rw [List.nil_append, Keyed.get?_ofList_nil] at hleast
  rw [toFields, get?_optionalField, get?_optionalField, hleast]
  split
  · rename_i hsections
    subst hsections
    rfl
  · split
    · rename_i hmost
      subst hmost
      rfl
    · rfl

theorem ofFields_toFields (group : ContentRules) : ofFields group.toFields = .ok group := by
  have hleast : lengthOfFields group.toFields "min_length" = .ok group.minLength := by
    refine lengthOfFields_of_get? ?_
    rw [get?_toFields]
    simp only [String.reduceEq, if_false, if_true, Option.or_none]
  have hmost : lengthOfFields group.toFields "max_length" = .ok group.maxLength := by
    refine lengthOfFields_of_get? ?_
    rw [get?_toFields]
    simp only [String.reduceEq, if_false, if_true, Option.or_none]
  have htitles : titlesOfFields group.toFields = .ok group.requiredSections := by
    refine titlesOfFields_of_get? ?_
    rw [get?_toFields]
    simp only [if_true, Option.or_none]
  simp only [ofFields, bind, Except.bind, hleast, hmost, htitles]
  rfl

end ContentRules

theorem optionalGroup_map {α β : Type} {read : α → Shaped β} {write : β → α} {part : Option β}
    (h : ∀ group, part = some group → read (write group) = .ok group) :
    optionalGroup read (part.map write) = .ok part := by
  cases part with
  | none => rfl
  | some group =>
      rw [Option.map_some, optionalGroup, h group rfl]
      rfl

-- The groups of rules when they are written.
def Rules.toFields (rules : Rules) : List (String × Value) :=
  Keyed.ofList (optionalField "frontmatter" FrontMatterRules.toJson rules.frontMatter ++
    optionalField "filename" FilenameRules.toJson rules.filename ++
    optionalField "content" ContentRules.toJson rules.content)

theorem Rules.get?_toFields (rules : Rules) (key : String) :
    Keyed.get? key rules.toFields =
      if key = "content" then (rules.content.map ContentRules.toJson).or none
      else if key = "filename" then (rules.filename.map FilenameRules.toJson).or none
      else if key = "frontmatter" then (rules.frontMatter.map FrontMatterRules.toJson).or none
      else none := by
  have hfront := get?_optionalField key "frontmatter" FrontMatterRules.toJson rules.frontMatter []
  rw [List.nil_append, Keyed.get?_ofList_nil] at hfront
  rw [toFields, get?_optionalField, get?_optionalField, hfront]
  split
  · rename_i hcontent
    subst hcontent
    rfl
  · split
    · rename_i hname
      subst hname
      rfl
    · rfl

-- The complaint about the first allowed value of rules that is no scalar.
def Rules.scalarFault? (rules : Rules) : Option RulesFault :=
  RequiredField.scalarFault? 0 rules.requiredFields

-- Rules come back from their document form, or their first fault does.
theorem Rules.ofJson_toJson {rules : Rules}
    (hnamed : ∀ field ∈ rules.requiredFields, Text.isAllBlank field.name = false) :
    ofJson rules.toJson =
      match rules.scalarFault? with
      | some fault => .error fault
      | none => .ok rules := by
  have hfront : optionalObject rules.toFields "frontmatter" =
      .ok (rules.frontMatter.map FrontMatterRules.toFields) := by
    refine optionalObject_of_get? ?_
    rw [get?_toFields]
    simp only [String.reduceEq, if_false, if_true, Option.or_none]
    rfl
  have hname : optionalObject rules.toFields "filename" = .ok (rules.filename.map FilenameRules.toFields) := by
    refine optionalObject_of_get? ?_
    rw [get?_toFields]
    simp only [String.reduceEq, if_false, if_true, Option.or_none]
    rfl
  have hcontent : optionalObject rules.toFields "content" = .ok (rules.content.map ContentRules.toFields) := by
    refine optionalObject_of_get? ?_
    rw [get?_toFields]
    simp only [if_true, Option.or_none]
    rfl
  have hfrontRules : optionalGroup FrontMatterRules.ofFields
      (rules.frontMatter.map FrontMatterRules.toFields) =
      match rules.scalarFault? with
      | some fault => .error fault
      | none => .ok rules.frontMatter := by
    rw [scalarFault?]
    rw [requiredFields] at hnamed ⊢
    cases hgroup : rules.frontMatter with
    | none => rfl
    | some group =>
        rw [hgroup] at hnamed
        rw [Option.map_some, optionalGroup, FrontMatterRules.ofFields_toFields hnamed]
        cases RequiredField.scalarFault? 0 (group.requiredFields.getD []) <;> rfl
  have hnameRules : optionalGroup FilenameRules.ofFields
      (rules.filename.map FilenameRules.toFields) = .ok rules.filename :=
    optionalGroup_map fun group _ => group.ofFields_toFields
  have hcontentRules : optionalGroup ContentRules.ofFields
      (rules.content.map ContentRules.toFields) = .ok rules.content :=
    optionalGroup_map fun group _ => group.ofFields_toFields
  simp only [ofJson, show rules.toJson = .object rules.toFields from rfl, objectAt, bind,
    Except.bind, hfront, hname, hcontent, hfrontRules, hnameRules, hcontentRules]
  cases rules.scalarFault? <;> rfl

theorem Rules.ofJson_toJson_of_isShaped {rules : Rules} (h : rules.IsShaped) :
    ofJson rules.toJson = .ok rules := by
  have hnone : rules.scalarFault? = none :=
    (RequiredField.scalarFault?_eq_none_iff 0 _).mpr fun field hf =>
      field.nested?_eq_none_iff.mpr (h field hf).scalar
  rw [ofJson_toJson fun field hf => (h field hf).named, hnone]

end NoteVault
