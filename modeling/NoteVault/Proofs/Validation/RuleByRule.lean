import Mathlib.Data.List.Basic
import Mathlib.Data.List.Flatten
import NoteVault.Validation.Check

namespace NoteVault

open Json

-- One rule out of a set of rules, with what it asks for.
inductive Rule where
  | requires (field : RequiredField)
  | named (pattern : String)
  | atLeast (length : Nat)
  | atMost (length : Nat)
  | titled (title : String)
deriving DecidableEq, Repr

-- The rules in the order in which they are checked.
def Rules.each (rules : Rules) : List Rule :=
  rules.requiredFields.map .requires ++ rules.filenamePattern?.toList.map .named ++
    match rules.content with
    | some group =>
      group.minLength.toList.map .atLeast ++ group.maxLength.toList.map .atMost ++
        (group.requiredSections.getD []).map .titled
    | none => []

namespace Validation

-- What a date starts with.
def IsDate (text : String) : Prop :=
  ∃ year month day rest : List Char,
    text.toList = year ++ '-' :: month ++ '-' :: day ++ rest ∧
      year.length = 4 ∧ month.length = 2 ∧ day.length = 2 ∧
      ∀ char ∈ year ++ month ++ day, '0' ≤ char ∧ char ≤ '9'

inductive OfType : FieldType → Value → Prop
  | string (text : String) : OfType .string (.string text)
  | number (value : Number) : OfType .number (.number value)
  | boolean (value : Bool) : OfType .boolean (.bool value)
  | date {text : String} (h : IsDate text) : OfType .date (.string text)
  | array (items : List Value) : OfType .array (.array items)

-- A pattern that does not compile is matched by every text.
def Matches (pattern text : String) : Prop :=
  ∀ compiled, Pattern.compile? pattern = some compiled → compiled.isMatch text = true

-- Two values agree when they are the same, and two numbers also when their
-- doubles are.
def Agree (left right : Value) : Prop :=
  left.same right = true ∨
    ∃ number other, left = .number number ∧ right = .number other ∧
      number.toBinary64.sameValue other.toBinary64 = true

-- What a required field asks of its value. Only strings are held against the
-- pattern, and an empty list of allowed values asks for nothing.
structure Admits (field : RequiredField) (value : Value) : Prop where
  present : value ≠ .null
  type : OfType field.type value
  pattern : ∀ pattern text, field.pattern = some pattern → value = .string text →
    Matches pattern text
  allowed : ∀ allowed, field.allowedValues = some allowed → allowed ≠ [] →
    ∃ candidate ∈ allowed, Agree candidate value

theorem startsWithDate_iff (text : String) : startsWithDate text = true ↔ IsDate text := by
  constructor
  · intro h
    unfold startsWithDate at h
    split at h
    next y₁ y₂ y₃ y₄ m₁ m₂ d₁ d₂ rest start =>
      refine ⟨[y₁, y₂, y₃, y₄], [m₁, m₂], [d₁, d₂], rest, start, rfl, rfl, rfl, ?_⟩
      simpa [Text.isDigit] using h
    · cases h
  · rintro ⟨year, month, day, rest, start, four, two, two', digits⟩
    obtain ⟨y₁, year, rfl⟩ := List.exists_cons_of_length_eq_add_one four
    obtain ⟨y₂, y₃, y₄, rfl⟩ := List.length_eq_three.mp (Nat.succ.inj four)
    obtain ⟨m₁, m₂, rfl⟩ := List.length_eq_two.mp two
    obtain ⟨d₁, d₂, rfl⟩ := List.length_eq_two.mp two'
    simp only [startsWithDate, start, List.cons_append, List.nil_append]
    simpa [Text.isDigit] using digits

theorem hasType_iff (type : FieldType) (value : Value) :
    hasType type value = true ↔ OfType type value := by
  constructor
  · intro h
    unfold hasType at h
    split at h
    · exact .string _
    · exact .number _
    · exact .boolean _
    · exact .date ((startsWithDate_iff _).mp h)
    · exact .array _
    · cases h
  · intro h
    cases h with
    | date h => exact (startsWithDate_iff _).mpr h
    | string | number | boolean | array => rfl

theorem breaks_eq_false_iff (pattern text : String) :
    breaks pattern text = false ↔ Matches pattern text := by
  unfold breaks Matches
  cases Pattern.compile? pattern <;> simp

theorem sameScalar_iff (left right : Value) : sameScalar left right = true ↔ Agree left right := by
  unfold sameScalar Agree
  split
  next number other =>
    -- numbers that are the same have the same double
    have double : number.same other = true →
        number.toBinary64.sameValue other.toBinary64 = true := by
      cases number <;> cases other <;> simp +contextual [Number.same, Number.toBinary64,
        Decimal.Binary64.sameValue_refl]
    simpa [Value.same] using double
  next apart =>
    constructor
    · exact .inl
    · rintro (same | ⟨number, other, rfl, rfl, -⟩)
      · exact same
      · exact absurd rfl (apart number other rfl)

theorem patternIssues_eq_nil_iff (field : RequiredField) (value : Value) :
    patternIssues field value = [] ↔
      ∀ pattern text, field.pattern = some pattern → value = .string text →
        Matches pattern text := by
  unfold patternIssues
  split
  next pattern text found =>
    simp [found, ← breaks_eq_false_iff]
  next apart =>
    simpa using fun pattern text found string => absurd string (apart pattern text found)

theorem allowedIssues_eq_nil_iff (field : RequiredField) (value : Value) :
    allowedIssues field value = [] ↔
      ∀ allowed, field.allowedValues = some allowed → allowed ≠ [] →
        ∃ candidate ∈ allowed, Agree candidate value := by
  unfold allowedIssues
  cases field.allowedValues with
  | none => simp
  | some allowed =>
    simp only [Option.getD_some, Option.some.injEq, forall_eq', ite_eq_left_iff, reduceCtorEq,
      imp_false, not_not, Bool.or_eq_true, List.isEmpty_iff, List.any_eq_true, sameScalar_iff]
    exact or_iff_not_imp_left

theorem fieldIssues_eq_nil_iff (note : FrontMatter.Note) (field : RequiredField) :
    fieldIssues note field = [] ↔
      ∃ value, Keyed.get? field.name note.fields = some value ∧ Admits field value := by
  unfold fieldIssues
  split
  next absent => simp [absent]
  next null =>
    suffices ¬ Admits field .null by simpa [null]
    exact fun admits => admits.present rfl
  next value present found =>
    simp only [found, Option.some.injEq, exists_eq_left']
    split
    next other =>
      have other : ¬ OfType field.type value := by simpa [← hasType_iff] using other
      simpa using fun admits : Admits field value => other admits.type
    next type =>
      have type : OfType field.type value := by simpa [← hasType_iff] using type
      rw [List.append_eq_nil_iff, patternIssues_eq_nil_iff, allowedIssues_eq_nil_iff]
      constructor
      · rintro ⟨pattern, allowed⟩
        exact ⟨present, type, pattern, allowed⟩
      · exact fun admits => ⟨admits.pattern, admits.allowed⟩

end Validation

namespace Rule

-- The rules that ask for this one and nothing else.
def alone : Rule → Rules
  | .requires field => ⟨some ⟨some [field]⟩, none, none⟩
  | .named pattern => ⟨none, some ⟨some pattern⟩, none⟩
  | .atLeast length => ⟨none, none, some ⟨some length, none, none⟩⟩
  | .atMost length => ⟨none, none, some ⟨none, some length, none⟩⟩
  | .titled title => ⟨none, none, some ⟨none, none, some [title]⟩⟩

-- What a rule asks of a note at a path.
def Holds (path : String) (note : FrontMatter.Note) : Rule → Prop
  | .requires field =>
    ∃ value, Keyed.get? field.name note.fields = some value ∧ Validation.Admits field value
  | .named pattern => Validation.Matches pattern (Path.fileName path)
  | .atLeast length => length ≤ note.body.length
  | .atMost length => note.body.length ≤ length
  | .titled title => Validation.hasSection note.body title = true

-- What a rule finds on its own.
def verdict (path : String) (note : FrontMatter.Note) : Rule → List Issue
  | .requires field => Validation.fieldIssues note field
  | .named pattern =>
    if Validation.breaks pattern (Path.fileName path) then
      [.filenameMismatch (Path.fileName path) pattern]
    else []
  | .atLeast length => if note.body.length < length then [.tooShort note.body.length length] else []
  | .atMost length => if length < note.body.length then [.tooLong note.body.length length] else []
  | .titled title => if Validation.hasSection note.body title then [] else [.missingSection title]

@[simp] theorem each_alone (rule : Rule) : rule.alone.each = [rule] := by
  cases rule <;> rfl

theorem verdict_eq_nil_iff (path : String) (note : FrontMatter.Note) (rule : Rule) :
    rule.verdict path note = [] ↔ rule.Holds path note := by
  cases rule with
  | requires field => exact Validation.fieldIssues_eq_nil_iff note field
  | named pattern => simp [verdict, Holds, ← Validation.breaks_eq_false_iff]
  | atLeast length => simp [verdict, Holds]
  | atMost length => simp [verdict, Holds]
  | titled title => simp [verdict, Holds]

end Rule

namespace Validation

theorem map_filter_eq_flatMap {α β : Type} (keep : α → Bool) (f : α → β) (items : List α) :
    (items.filter keep).map f = items.flatMap fun item => if keep item then [f item] else [] := by
  induction items with
  | nil => rfl
  | cons item items ih => cases h : keep item <;> simp [h, ih]

theorem filenameIssues_eq_flatMap (rules : Rules) (path : String) (note : FrontMatter.Note) :
    filenameIssues rules path =
      (rules.filenamePattern?.toList.map .named).flatMap (Rule.verdict path note) := by
  unfold filenameIssues
  cases rules.filenamePattern? <;> simp [Rule.verdict]

theorem lengthIssues_eq_flatMap (rules : ContentRules) (path : String) (note : FrontMatter.Note) :
    lengthIssues rules note.body.length =
      (rules.minLength.toList.map Rule.atLeast ++ rules.maxLength.toList.map Rule.atMost).flatMap
        (Rule.verdict path note) := by
  simp [lengthIssues, map_filter_eq_flatMap, List.flatMap_map, Rule.verdict]

theorem sectionIssues_eq_flatMap (rules : ContentRules) (path : String) (note : FrontMatter.Note) :
    sectionIssues rules note.body =
      ((rules.requiredSections.getD []).map .titled).flatMap (Rule.verdict path note) := by
  rw [sectionIssues, map_filter_eq_flatMap, List.flatMap_map]
  congr 1
  funext title
  cases h : hasSection note.body title <;> simp [Rule.verdict, h]

-- The checks look at one rule at a time.
theorem issues_eq_flatMap (rules : Rules) (path content : String) :
    (ofNote rules path content).issues =
      rules.each.flatMap (Rule.verdict path (.ofText content)) := by
  have fields : rules.requiredFields.flatMap (fieldIssues (.ofText content)) =
      (rules.requiredFields.map .requires).flatMap (Rule.verdict path (.ofText content)) := by
    simp [List.flatMap_map, Rule.verdict]
  simp only [ofNote, Rules.each, contentIssues]
  rw [fields, filenameIssues_eq_flatMap rules path (.ofText content)]
  cases rules.content with
  | none => simp
  | some group =>
    simp [lengthIssues_eq_flatMap group path, sectionIssues_eq_flatMap group path]

theorem issues_alone (rule : Rule) (path content : String) :
    (ofNote rule.alone path content).issues = rule.verdict path (.ofText content) := by
  simp [issues_eq_flatMap]

theorem passed_iff (rules : Rules) (path content : String) :
    (ofNote rules path content).passed = true ↔
      ∀ rule ∈ rules.each, rule.Holds path (.ofText content) := by
  simp [passed, issues_eq_flatMap, Rule.verdict_eq_nil_iff]

theorem kinds_patternIssues (field : RequiredField) (value : Value) :
    ((patternIssues field value).map Issue.kind).Sublist ["pattern_mismatch"] := by
  unfold patternIssues
  split
  · split <;> simp [Issue.kind]
  · simp

theorem kinds_allowedIssues (field : RequiredField) (value : Value) :
    ((allowedIssues field value).map Issue.kind).Sublist ["invalid_value"] := by
  unfold allowedIssues
  dsimp only
  split <;> simp [Issue.kind]

theorem kinds_fieldIssues (note : FrontMatter.Note) (field : RequiredField) :
    let kinds := (fieldIssues note field).map Issue.kind
    kinds = ["missing_required_field"] ∨ kinds = ["invalid_field_type"] ∨
      kinds.Sublist ["pattern_mismatch", "invalid_value"] := by
  unfold fieldIssues
  split
  · simp [Issue.kind]
  · simp [Issue.kind]
  · split
    · simp [Issue.kind]
    · right; right
      rw [List.map_append]
      exact (kinds_patternIssues field _).append (kinds_allowedIssues field _)

theorem place_of_mem_fieldIssues {note : FrontMatter.Note} {field : RequiredField} {issue : Issue}
    (h : issue ∈ fieldIssues note field) : issue.place = "frontmatter." ++ field.name := by
  unfold fieldIssues patternIssues allowedIssues at h
  grind [Issue.place]

-- The issues of a note are those of each rule alone, in the order of the rules,
-- so that rules beside a rule neither hide nor add to what it finds.
theorem ofNote_rule_by_rule (rules : Rules) (path content : String) :
    (ofNote rules path content).issues =
        rules.each.flatMap (fun rule => (ofNote rule.alone path content).issues) ∧
      (∀ field,
        let found := (ofNote (Rule.requires field).alone path content).issues
        (∀ issue ∈ found, issue.place = "frontmatter." ++ field.name) ∧
          (found.map Issue.kind = ["missing_required_field"] ∨
            found.map Issue.kind = ["invalid_field_type"] ∨
            (found.map Issue.kind).Sublist ["pattern_mismatch", "invalid_value"])) ∧
      ((ofNote rules path content).passed = true ↔
        ∀ rule ∈ rules.each, rule.Holds path (.ofText content)) ∧
      ∀ more : Rules, rules.each.Sublist more.each →
        (ofNote rules path content).issues.Sublist (ofNote more path content).issues := by
  refine ⟨?each, ?field, passed_iff rules path content, ?more⟩
  case each =>
    simp only [issues_alone]
    exact issues_eq_flatMap rules path content
  case field =>
    intro field
    simp only [issues_alone]
    exact ⟨fun issue => place_of_mem_fieldIssues, kinds_fieldIssues _ field⟩
  case more =>
    intro more added
    rw [issues_eq_flatMap, issues_eq_flatMap]
    exact added.flatMap _

-- A missing title is reported whether or not the body is held against rules too.
theorem ofNote_rule_by_rule_body :
    let title : FrontMatterRules := ⟨some [⟨"title", .string, none, none⟩]⟩
    let few : Rules := ⟨some title, none, none⟩
    let more : Rules := ⟨some title, none, some ⟨some 10, none, some ["Plan"]⟩⟩
    few.each.Sublist more.each ∧
      (ofNote few "docs/plan.md" "Begin.").issues.Sublist
        (ofNote more "docs/plan.md" "Begin.").issues ∧
      (ofNote more "docs/plan.md" "Begin.").issues.map Issue.kind =
        ["missing_required_field", "content_too_short", "missing_section"] := by
  intro title few more
  have hadded : few.each.Sublist more.each := by decide
  obtain ⟨-, -, -, hmore⟩ := ofNote_rule_by_rule few "docs/plan.md" "Begin."
  exact ⟨hadded, hmore more hadded, by decide⟩

end Validation

end NoteVault
