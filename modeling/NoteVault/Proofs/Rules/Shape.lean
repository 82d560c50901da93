import NoteVault.FrontMatter.Scalar
import NoteVault.Rules.Shape

namespace NoteVault

open Json

theorem exists_of_bind_eq_ok {ε α β : Type} {first : Except ε α} {next : α → Except ε β} {result : β}
    (h : first >>= next = .ok result) : ∃ value, first = .ok value ∧ next value = .ok result := by
  cases first with
  | error fault => cases h
  | ok value => exact ⟨value, rfl, h⟩

theorem exists_of_map_eq_ok {ε α β : Type} {first : Except ε α} {change : α → β} {result : β}
    (h : first.map change = .ok result) : ∃ value, first = .ok value ∧ change value = result := by
  cases first with
  | error fault => cases h
  | ok value => exact ⟨value, rfl, Except.ok.inj h⟩

namespace Json.Value

mutual

-- Every integer of the document fits in a signed or an unsigned word of 64 bits.
def fitsWords : Value → Bool
  | .number (.integer value) => FrontMatter.isWord value
  | .array items => itemsFitWords items
  | .object fields => fieldsFitWords fields
  | .null | .bool _ | .number (.double _) | .string _ => true

def itemsFitWords : List Value → Bool
  | [] => true
  | item :: items => fitsWords item && itemsFitWords items

def fieldsFitWords : List (String × Value) → Bool
  | [] => true
  | (_, value) :: fields => fitsWords value && fieldsFitWords fields

end

theorem fitsWords_of_mem {items : List Value} (h : itemsFitWords items = true) :
    ∀ item ∈ items, item.fitsWords = true := by
  induction items with
  | nil => exact fun _ hi => nomatch hi
  | cons first items ih =>
      rw [itemsFitWords, Bool.and_eq_true] at h
      exact List.forall_mem_cons.mpr ⟨h.1, ih h.2⟩

theorem fitsWords_of_get? {fields : List (String × Value)} (h : fieldsFitWords fields = true)
    {key : String} {value : Value} (hget : Keyed.get? key fields = some value) :
    value.fitsWords = true := by
  induction fields with
  | nil => cases hget
  | cons field fields ih =>
      obtain ⟨other, first⟩ := field
      rw [fieldsFitWords, Bool.and_eq_true] at h
      rw [Keyed.get?] at hget
      split at hget
      · rw [← Option.some.inj hget]
        exact h.1
      · exact ih h.2 hget

end Json.Value

-- What a required field keeps to if it comes from a document.
structure RequiredField.IsShaped (field : RequiredField) : Prop where
  named : Text.isAllBlank field.name = false
  scalar : ∀ values, field.allowedValues = some values → ∀ value ∈ values, isScalar value = true

def Rules.IsShaped (rules : Rules) : Prop :=
  ∀ field ∈ rules.requiredFields, field.IsShaped

-- Numbers that a word of 64 bits holds, wherever rules have one.
structure Rules.FitsWords (rules : Rules) : Prop where
  allowed : ∀ field ∈ rules.requiredFields, ∀ values, field.allowedValues = some values →
    ∀ value ∈ values, value.fitsWords = true
  least : ∀ group, rules.content = some group → ∀ length, group.minLength = some length →
    length < Nat.pow 2 64
  most : ∀ group, rules.content = some group → ∀ length, group.maxLength = some length →
    length < Nat.pow 2 64

section

variable {fields : List (String × Value)} {place key : String} {value : Value}

theorem objectAt_eq_ok (h : objectAt place value = .ok fields) : value = .object fields := by
  cases value with
  | object found =>
      rw [objectAt] at h
      rw [Except.ok.inj h]
  | null | bool | number | string | array => cases h

theorem get?_of_given? (h : given? key fields = some value) : Keyed.get? key fields = some value := by
  rw [given?] at h
  split at h
  · cases h
  · exact h

theorem optionalObject_eq_ok {found : List (String × Value)}
    (h : optionalObject fields key = .ok (some found)) :
    Keyed.get? key fields = some (.object found) := by
  rw [optionalObject] at h
  split at h
  · cases h
  · rename_i value hgiven
    obtain ⟨_, hobject, heq⟩ := exists_of_map_eq_ok h
    obtain rfl := Option.some.inj heq
    rw [get?_of_given? hgiven, objectAt_eq_ok hobject]

theorem optionalGroup_eq_ok {α β : Type} {read : α → Shaped β} {part : Option α} {group : β}
    (h : optionalGroup read part = .ok (some group)) : ∃ found, part = some found ∧
      read found = .ok group := by
  cases part with
  | none => cases h
  | some found =>
      obtain ⟨_, hread, heq⟩ := exists_of_map_eq_ok h
      obtain rfl := Option.some.inj heq
      exact ⟨found, rfl, hread⟩

namespace RequiredField

variable {index : Nat} {field : RequiredField}

theorem isAllBlank_of_nameOfFields {name : String} (h : nameOfFields fields place = .ok name) :
    Text.isAllBlank name = false := by
  rw [nameOfFields] at h
  split at h
  · split at h
    · cases h
    · rename_i hblank
      obtain rfl := Except.ok.inj h
      exact Bool.eq_false_iff.mpr hblank
  · cases h

theorem allowedOfFields_eq_ok {values : List Value}
    (h : allowedOfFields fields place = .ok (some values)) :
    Keyed.get? "allowed_values" fields = some (.array values) ∧
      ∀ value ∈ values, isScalar value = true := by
  rw [allowedOfFields] at h
  split at h
  · cases h
  · rename_i found hgiven
    split at h
    · cases h
    · rename_i hnone
      obtain rfl := Option.some.inj (Except.ok.inj h)
      refine ⟨get?_of_given? hgiven, fun value hv => ?_⟩
      simpa using List.find?_eq_none.mp hnone value hv
  · cases h

theorem ofJson_eq_ok (h : ofJson index value = .ok field) : ∃ fields, value = .object fields ∧
    nameOfFields fields (RequiredField.place index) = .ok field.name ∧
    allowedOfFields fields (RequiredField.place index) = .ok field.allowedValues := by
  obtain ⟨fields, hobject, h⟩ := exists_of_bind_eq_ok h
  obtain ⟨name, hname, h⟩ := exists_of_bind_eq_ok h
  obtain ⟨type, -, h⟩ := exists_of_bind_eq_ok h
  obtain ⟨pattern, -, h⟩ := exists_of_bind_eq_ok h
  obtain ⟨allowed, hallowed, h⟩ := exists_of_bind_eq_ok h
  obtain rfl := Except.ok.inj h
  exact ⟨fields, objectAt_eq_ok hobject, hname, hallowed⟩

theorem isShaped_of_ofJson (h : ofJson index value = .ok field) : field.IsShaped := by
  obtain ⟨fields, -, hname, hallowed⟩ := ofJson_eq_ok h
  refine ⟨isAllBlank_of_nameOfFields hname, fun values hvalues => ?_⟩
  rw [hvalues] at hallowed
  exact (allowedOfFields_eq_ok hallowed).2

theorem fitsWords_of_ofJson (hwords : value.fitsWords = true) (h : ofJson index value = .ok field)
    {values : List Value} (hvalues : field.allowedValues = some values) :
    ∀ value ∈ values, value.fitsWords = true := by
  obtain ⟨fields, rfl, -, hallowed⟩ := ofJson_eq_ok h
  rw [hvalues] at hallowed
  have harray := Value.fitsWords_of_get? (by simpa [Value.fitsWords] using hwords)
    (allowedOfFields_eq_ok hallowed).1
  exact Value.fitsWords_of_mem (by simpa [Value.fitsWords] using harray)

theorem mem_of_listOfJson {values : List Value} {found : List RequiredField}
    (h : listOfJson index values = .ok found) :
    ∀ field ∈ found, ∃ index, ∃ value ∈ values, ofJson index value = .ok field := by
  induction values generalizing index found with
  | nil =>
      obtain rfl := Except.ok.inj h
      exact fun _ hf => nomatch hf
  | cons value values ih =>
      obtain ⟨first, hfirst, h⟩ := exists_of_bind_eq_ok h
      obtain ⟨others, hothers, h⟩ := exists_of_bind_eq_ok h
      obtain rfl := Except.ok.inj h
      refine List.forall_mem_cons.mpr ⟨⟨index, value, List.mem_cons_self, hfirst⟩, fun field hf => ?_⟩
      obtain ⟨position, source, hs, hread⟩ := ih hothers field hf
      exact ⟨position, source, List.mem_cons_of_mem value hs, hread⟩

end RequiredField

theorem FrontMatterRules.ofFields_eq_ok {group : FrontMatterRules} (h : ofFields fields = .ok group)
    {found : List RequiredField} (hfound : group.requiredFields = some found) :
    ∃ values, Keyed.get? "required_fields" fields = some (.array values) ∧
      RequiredField.listOfJson 0 values = .ok found := by
  rw [ofFields] at h
  split at h
  · obtain rfl := Except.ok.inj h
    cases hfound
  · rename_i values hgiven
    obtain ⟨read, hread, h⟩ := exists_of_bind_eq_ok h
    obtain rfl := Except.ok.inj h
    obtain rfl := Option.some.inj hfound
    exact ⟨values, get?_of_given? hgiven, hread⟩
  · cases h

namespace ContentRules

theorem lengthOfFields_eq_ok {length : Nat} (h : lengthOfFields fields key = .ok (some length)) :
    ∃ value : Int, Keyed.get? key fields = some (.number (.integer value)) ∧ 0 ≤ value ∧
      length = value.toNat := by
  rw [lengthOfFields] at h
  split at h
  · cases h
  · rename_i value hgiven
    split at h
    · rename_i hnonneg
      obtain rfl := Option.some.inj (Except.ok.inj h)
      exact ⟨value, get?_of_given? hgiven, hnonneg, rfl⟩
    · cases h
  · cases h

theorem length_lt_of_fitsWords {length : Nat} (hwords : Value.fieldsFitWords fields = true)
    (h : lengthOfFields fields key = .ok (some length)) : length < Nat.pow 2 64 := by
  obtain ⟨value, hget, hnonneg, rfl⟩ := lengthOfFields_eq_ok h
  have hword := Value.fitsWords_of_get? hwords hget
  simp only [Value.fitsWords, FrontMatter.isWord, Bool.and_eq_true, decide_eq_true_eq] at hword
  omega

theorem ofFields_eq_ok {group : ContentRules} (h : ofFields fields = .ok group) :
    lengthOfFields fields "min_length" = .ok group.minLength ∧
      lengthOfFields fields "max_length" = .ok group.maxLength := by
  obtain ⟨titles, -, h⟩ := exists_of_bind_eq_ok h
  obtain ⟨least, hleast, h⟩ := exists_of_bind_eq_ok h
  obtain ⟨most, hmost, h⟩ := exists_of_bind_eq_ok h
  obtain rfl := Except.ok.inj h
  exact ⟨hleast, hmost⟩

end ContentRules

end

namespace Rules

variable {value : Value} {rules : Rules}

-- The groups of a document of rules, each read from its own field.
theorem ofJson_eq_ok (h : ofJson value = .ok rules) : ∃ root, value = .object root ∧
    (∀ group, rules.frontMatter = some group → ∃ fields,
      Keyed.get? "frontmatter" root = some (.object fields) ∧
        FrontMatterRules.ofFields fields = .ok group) ∧
    ∀ group, rules.content = some group → ∃ fields,
      Keyed.get? "content" root = some (.object fields) ∧
        ContentRules.ofFields fields = .ok group := by
  obtain ⟨root, hroot, h⟩ := exists_of_bind_eq_ok h
  obtain ⟨frontPart, hfrontPart, h⟩ := exists_of_bind_eq_ok h
  obtain ⟨front, hfront, h⟩ := exists_of_bind_eq_ok h
  obtain ⟨namePart, -, h⟩ := exists_of_bind_eq_ok h
  obtain ⟨name, -, h⟩ := exists_of_bind_eq_ok h
  obtain ⟨contentPart, hcontentPart, h⟩ := exists_of_bind_eq_ok h
  obtain ⟨content, hcontent, h⟩ := exists_of_bind_eq_ok h
  obtain rfl := Except.ok.inj h
  refine ⟨root, objectAt_eq_ok hroot, fun group hgroup => ?_, fun group hgroup => ?_⟩
  · obtain rfl := hgroup
    obtain ⟨fields, rfl, hread⟩ := optionalGroup_eq_ok hfront
    exact ⟨fields, optionalObject_eq_ok hfrontPart, hread⟩
  · obtain rfl := hgroup
    obtain ⟨fields, rfl, hread⟩ := optionalGroup_eq_ok hcontent
    exact ⟨fields, optionalObject_eq_ok hcontentPart, hread⟩

-- Required fields come from the items of one list of the document.
theorem mem_requiredFields_of_ofJson (h : ofJson value = .ok rules) :
    ∀ field ∈ rules.requiredFields, ∃ root fields values index item, value = .object root ∧
      Keyed.get? "frontmatter" root = some (.object fields) ∧
      Keyed.get? "required_fields" fields = some (.array values) ∧ item ∈ values ∧
      RequiredField.ofJson index item = .ok field := by
  intro field hfield
  obtain ⟨root, rfl, hfront, -⟩ := ofJson_eq_ok h
  rw [requiredFields] at hfield
  split at hfield
  · rename_i group hgroup
    obtain ⟨fields, hfields, hread⟩ := hfront group hgroup
    cases hfound : group.requiredFields with
    | none =>
        rw [hfound] at hfield
        cases hfield
    | some found =>
        rw [hfound] at hfield
        obtain ⟨values, hvalues, hlist⟩ := FrontMatterRules.ofFields_eq_ok hread hfound
        obtain ⟨index, item, hitem, hitemRead⟩ := RequiredField.mem_of_listOfJson hlist field hfield
        exact ⟨root, fields, values, index, item, rfl, hfields, hvalues, hitem, hitemRead⟩
  · cases hfield

theorem isShaped_of_ofJson (h : ofJson value = .ok rules) : rules.IsShaped := by
  intro field hfield
  obtain ⟨_, _, _, _, _, -, -, -, -, hread⟩ := mem_requiredFields_of_ofJson h field hfield
  exact RequiredField.isShaped_of_ofJson hread

theorem fitsWords_of_ofJson (hwords : value.fitsWords = true) (h : ofJson value = .ok rules) :
    rules.FitsWords := by
  have hcontent : ∀ group, rules.content = some group → ∃ fields,
      Value.fieldsFitWords fields = true ∧ ContentRules.ofFields fields = .ok group := by
    intro group hgroup
    obtain ⟨root, rfl, -, hcontent⟩ := ofJson_eq_ok h
    obtain ⟨fields, hfields, hread⟩ := hcontent group hgroup
    have hobject := Value.fitsWords_of_get? (by simpa [Value.fitsWords] using hwords) hfields
    exact ⟨fields, by simpa [Value.fitsWords] using hobject, hread⟩
  refine ⟨fun field hfield values hvalues => ?_, fun group hgroup length hlength => ?_,
    fun group hgroup length hlength => ?_⟩
  · obtain ⟨root, fields, items, index, item, rfl, hfields, hitems, hitem, hread⟩ :=
      mem_requiredFields_of_ofJson h field hfield
    have hobject := Value.fitsWords_of_get? (by simpa [Value.fitsWords] using hwords) hfields
    have harray := Value.fitsWords_of_get? (by simpa [Value.fitsWords] using hobject) hitems
    have hword := Value.fitsWords_of_mem (by simpa [Value.fitsWords] using harray) item hitem
    exact RequiredField.fitsWords_of_ofJson hword hread hvalues
  · obtain ⟨fields, hfit, hread⟩ := hcontent group hgroup
    have hleast := (ContentRules.ofFields_eq_ok hread).1
    rw [hlength] at hleast
    exact ContentRules.length_lt_of_fitsWords hfit hleast
  · obtain ⟨fields, hfit, hread⟩ := hcontent group hgroup
    have hmost := (ContentRules.ofFields_eq_ok hread).2
    rw [hlength] at hmost
    exact ContentRules.length_lt_of_fitsWords hfit hmost

end Rules

end NoteVault
