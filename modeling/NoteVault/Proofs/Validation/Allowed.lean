import NoteVault.Proofs.Decimal.Integer
import NoteVault.Proofs.FrontMatter.Decimal
import NoteVault.Proofs.FrontMatter.Written
import NoteVault.Validation.Check

namespace NoteVault.Validation

open Decimal Json

variable {rules : Rules} {field : RequiredField} {note : FrontMatter.Note} {content name : String}
  {allowed : List Value} {value actual : Value}

-- What it takes for a value to be refused by a list of allowed values.
structure IsRefused (field : RequiredField) (name : String) (allowed : List Value)
    (actual : Value) : Prop where
  name_eq : name = field.name
  allowed_eq : allowed = field.allowedValues.getD []
  ne_nil : allowed ≠ []
  apart : ∀ candidate ∈ allowed, sameScalar candidate actual = false

theorem mem_allowedIssues_iff :
    Issue.valueNotAllowed name allowed actual ∈ allowedIssues field value ↔
      actual = value ∧ IsRefused field name allowed actual := by
  simp only [allowedIssues]
  split
  · rename_i hadmits
    refine iff_of_false List.not_mem_nil ?_
    rintro ⟨rfl, -, rfl, hne, hapart⟩
    rcases Bool.or_eq_true_iff.mp hadmits with hempty | hsome
    · exact hne (List.isEmpty_iff.mp hempty)
    · obtain ⟨candidate, hmem, hsame⟩ := List.any_eq_true.mp hsome
      rw [hapart candidate hmem] at hsame
      cases hsame
  · rename_i hbreaks
    simp only [Bool.or_eq_true, List.isEmpty_iff, List.any_eq_true, not_or, not_exists, not_and,
      Bool.not_eq_true] at hbreaks
    constructor
    · intro h
      obtain ⟨rfl, rfl, rfl⟩ := Issue.valueNotAllowed.inj (List.mem_singleton.mp h)
      exact ⟨rfl, rfl, rfl, hbreaks.1, hbreaks.2⟩
    · rintro ⟨rfl, rfl, rfl, -⟩
      exact List.mem_singleton.mpr rfl

theorem notMem_patternIssues :
    Issue.valueNotAllowed name allowed actual ∉ patternIssues field value := by
  intro h
  unfold patternIssues at h
  split at h
  · split at h
    · cases List.mem_singleton.mp h
    · cases h
  · cases h

theorem mem_fieldIssues_iff : Issue.valueNotAllowed name allowed actual ∈ fieldIssues note field ↔
    Keyed.get? field.name note.fields = some actual ∧ hasType field.type actual = true ∧
      IsRefused field name allowed actual := by
  unfold fieldIssues
  split
  · rename_i hnone
    simp [hnone]
  · rename_i hnull
    refine iff_of_false (by simp) ?_
    rintro ⟨hget, htype, -⟩
    obtain rfl := Option.some.inj (hnull.symm.trans hget)
    cases hfield : field.type <;> rw [hfield] at htype <;> cases htype
  · rename_i found _ hget
    rw [hget, Option.some.injEq]
    split
    · rename_i hother
      refine iff_of_false (by simp) ?_
      rintro ⟨rfl, htype, -⟩
      rw [htype] at hother
      cases hother
    · rename_i htype
      rw [List.mem_append, or_iff_right notMem_patternIssues, mem_allowedIssues_iff]
      constructor
      · rintro ⟨rfl, hrefused⟩
        exact ⟨rfl, by simpa using htype, hrefused⟩
      · rintro ⟨rfl, -, hrefused⟩
        exact ⟨rfl, hrefused⟩

-- Only a required field reports a value that is not allowed.
theorem mem_issues_iff (path : String) :
    Issue.valueNotAllowed name allowed actual ∈ (ofNote rules path content).issues ↔
      ∃ field ∈ rules.requiredFields,
        Issue.valueNotAllowed name allowed actual ∈ fieldIssues (.ofText content) field := by
  have hfilename : Issue.valueNotAllowed name allowed actual ∉ filenameIssues rules path := by
    intro h
    unfold filenameIssues at h
    split at h
    · split at h
      · cases List.mem_singleton.mp h
      · cases h
    · cases h
  have hcontent : ∀ body, Issue.valueNotAllowed name allowed actual ∉ contentIssues rules body := by
    intro body h
    unfold contentIssues at h
    split at h
    · simp only [lengthIssues, sectionIssues, List.mem_append, List.mem_map] at h
      rcases h with (⟨_, -, h⟩ | ⟨_, -, h⟩) | ⟨_, -, h⟩ <;> cases h
    · cases h
  simp only [ofNote, List.mem_append, List.mem_flatMap, or_iff_left hfilename,
    or_iff_left (hcontent _)]

-- Whole numbers as the values of a rule.
def integers (numbers : List Int) : List Value :=
  numbers.map fun number => .number (.integer number)

variable {text : List Char} {number : Int} {numbers : List Int}

theorem natAbs_le_of_isWord (h : FrontMatter.isWord number = true) : number.natAbs ≤ 2 ^ 64 := by
  have hhalf : Nat.pow 2 63 = 9223372036854775808 := rfl
  have hfull : Nat.pow 2 64 = 18446744073709551616 := rfl
  simp only [FrontMatter.isWord, hhalf, hfull, Bool.and_eq_true, decide_eq_true_eq] at h
  omega

-- A number of a note is held against the doubles of the allowed numbers.
theorem mem_issues_integer_iff (path : String) (hfield : field ∈ rules.requiredFields)
    (htype : field.type = .number) (hallowed : field.allowedValues = some (integers numbers))
    (hne : numbers ≠ []) (hword : FrontMatter.isWord number = true)
    (hentry : FrontMatter.HasEntry content field.name text)
    (htext : FrontMatter.IsDecimal text number) :
    Issue.valueNotAllowed field.name (integers numbers) (.number (.integer number)) ∈
        (ofNote rules path content).issues ↔
      ∀ candidate ∈ numbers,
        (Binary64.ofInt candidate).sameValue (Binary64.ofInt number) = false := by
  have hget := FrontMatter.get?_of_hasEntry hentry htext.ne_nil
  rw [FrontMatter.coerce_of_isDecimal htext hword] at hget
  have hsame : (∀ candidate ∈ integers numbers,
      sameScalar candidate (.number (.integer number)) = false) ↔
        ∀ candidate ∈ numbers,
          (Binary64.ofInt candidate).sameValue (Binary64.ofInt number) = false := by
    simp only [integers, List.forall_mem_map, sameScalar, Number.toBinary64]
  rw [mem_issues_iff path, ← hsame]
  constructor
  · rintro ⟨other, -, h⟩
    exact (mem_fieldIssues_iff.mp h).2.2.apart
  · intro h
    refine ⟨field, hfield, mem_fieldIssues_iff.mpr ⟨hget, by rw [htype]; rfl, rfl, ?_, ?_, h⟩⟩
    · rw [hallowed]
      rfl
    · simpa [integers] using hne

-- A number that is refused is not among the allowed ones. A number that is not among
-- them is refused when it or all of them have at most 53 bits; larger numbers that
-- share a double stand for each other.
theorem ofNote_integer_allowed (path : String) (hfield : field ∈ rules.requiredFields)
    (htype : field.type = .number) (hallowed : field.allowedValues = some (integers numbers))
    (hne : numbers ≠ [])
    (hwords : ∀ other ∈ number :: numbers, FrontMatter.isWord other = true)
    (hentry : FrontMatter.HasEntry content field.name text)
    (htext : FrontMatter.IsDecimal text number) :
    let reported :=
      Issue.valueNotAllowed field.name (integers numbers) (.number (.integer number)) ∈
        (ofNote rules path content).issues
    (reported ↔ ∀ candidate ∈ numbers,
        (Binary64.ofInt candidate).sameValue (Binary64.ofInt number) = false) ∧
      (reported → number ∉ numbers) ∧
      ((number.natAbs < 2 ^ 53 ∨ ∀ candidate ∈ numbers, candidate.natAbs < 2 ^ 53) →
        (reported ↔ number ∉ numbers)) := by
  intro reported
  obtain ⟨hword, hwords⟩ := List.forall_mem_cons.mp hwords
  have hreported := mem_issues_integer_iff path hfield htype hallowed hne hword hentry htext
  have hreports : reported → number ∉ numbers := by
    intro h hmem
    have hapart := hreported.mp h number hmem
    rw [Binary64.sameValue_refl] at hapart
    cases hapart
  refine ⟨hreported, hreports, fun hsmall => ⟨hreports, fun hnot => ?_⟩⟩
  refine hreported.mpr fun candidate hmem => Bool.eq_false_iff.mpr fun hsame => hnot ?_
  have hcandidate := natAbs_le_of_isWord (hwords candidate hmem)
  rcases hsmall with hsmall | hsmall
  · rw [Binary64.sameValue_comm, Binary64.sameValue_ofInt_iff hsmall hcandidate] at hsame
    exact hsame ▸ hmem
  · rw [Binary64.sameValue_ofInt_iff (hsmall candidate hmem) (natAbs_le_of_isWord hword)] at hsame
    exact hsame ▸ hmem

def numberField (name : String) (numbers : List Int) : RequiredField :=
  ⟨name, .number, none, some (integers numbers)⟩

-- Leading zeros, and allowed numbers of 64 bits.
theorem ofNote_integer_allowed_seven :
    let numbers : List Int := [-7, 18446744073709551615]
    let field := numberField "id" numbers
    let rules : Rules := ⟨some ⟨some [field]⟩, none, none⟩
    let content := "---\nid: 007\n---\nBegin.\n"
    field ∈ rules.requiredFields ∧ field.type = .number ∧
      field.allowedValues = some (integers numbers) ∧ numbers ≠ [] ∧
      (∀ other ∈ 7 :: numbers, FrontMatter.isWord other = true) ∧
      FrontMatter.HasEntry content field.name "007".toList ∧
      FrontMatter.IsDecimal "007".toList 7 ∧ (7 : Int).natAbs < 2 ^ 53 ∧
      Issue.valueNotAllowed "id" (integers numbers) (.number (.integer 7)) ∈
        (ofNote rules "docs/plan.md" content).issues := by
  intro numbers field rules content
  have hfield : field ∈ rules.requiredFields := List.mem_singleton.mpr rfl
  have hne : numbers ≠ [] := List.cons_ne_nil _ _
  have hwords : ∀ other ∈ 7 :: numbers, FrontMatter.isWord other = true := by decide
  have hentry : FrontMatter.HasEntry content field.name "007".toList := by
    refine FrontMatter.hasEntry_of_line "id: 007".toList "Begin.\n".toList
      ⟨by decide, by decide, "id".toList, " 007".toList, by decide, by decide, by decide, by decide⟩
      (by decide) (by decide) (by decide) (by decide)
  have htext : FrontMatter.IsDecimal "007".toList 7 :=
    .plain (by decide) (List.all_eq_true.mp rfl)
  have hsmall : (7 : Int).natAbs < 2 ^ 53 := by decide
  obtain ⟨-, -, hreported⟩ := ofNote_integer_allowed "docs/plan.md" hfield rfl rfl hne hwords
    hentry htext
  exact ⟨hfield, rfl, rfl, hne, hwords, hentry, htext, hsmall,
    (hreported (.inl hsmall)).mpr (by decide)⟩

-- Two neighbours of 54 bits have one double, and the one passes for the other.
theorem ofNote_admits_neighbour :
    let field := numberField "id" [9007199254740992]
    let rules : Rules := ⟨some ⟨some [field]⟩, none, none⟩
    let content := "---\nid: 9007199254740993\n---\n"
    (9007199254740993 : Int) ∉ ([9007199254740992] : List Int) ∧
      Issue.valueNotAllowed "id" (integers [9007199254740992])
        (.number (.integer 9007199254740993)) ∉ (ofNote rules "docs/plan.md" content).issues := by
  intro field rules content
  have hentry : FrontMatter.HasEntry content field.name "9007199254740993".toList := by
    refine FrontMatter.hasEntry_of_line "id: 9007199254740993".toList []
      ⟨by decide, by decide, "id".toList, " 9007199254740993".toList, by decide, by decide,
        by decide, by decide⟩ (by decide) (by decide) (by decide) (by decide)
  have htext : FrontMatter.IsDecimal "9007199254740993".toList 9007199254740993 :=
    .plain (by decide) (List.all_eq_true.mp rfl)
  refine ⟨by decide, fun hreported => ?_⟩
  have hapart := (mem_issues_integer_iff _ (List.mem_singleton.mpr rfl) rfl rfl
    (List.cons_ne_nil _ _) (by decide) hentry htext).mp hreported 9007199254740992
    List.mem_cons_self
  exact absurd hapart (by decide)

end NoteVault.Validation
