import NoteVault.Proofs.Program.Settles
import NoteVault.Proofs.Registry.Filed
import NoteVault.Proofs.Rules.Alike
import NoteVault.Proofs.Tool.Task

namespace NoteVault

open Json Registry Session

-- The pattern for file names compiles, if there is one.
def Rules.Compiles (rules : Rules) : Prop :=
  ∀ pattern, rules.filenamePattern? = some pattern → Pattern.compile? pattern ≠ none

-- Of what new rules must pass, all but this is in their shape.
theorem Rules.IsShaped.check_eq_ok {rules : Rules} (h : rules.IsShaped) (hcompiles : rules.Compiles) :
    rules.check = .ok () := by
  have hpattern : filenameFault? rules = none := by
    rw [filenameFault?]
    split
    · rename_i pattern hgiven
      simp [hcompiles pattern hgiven]
    · rfl
  have hnamed : (rules.requiredFields.any fun field => Text.isAllBlank field.name) = false := by
    rw [List.any_eq_false]
    intro field hfield
    rw [(h field hfield).named]
    exact Bool.false_ne_true
  rw [check, hpattern]
  simp [hnamed]

theorem Rules.check_eq_error {rules : Rules} {pattern : String}
    (hgiven : rules.filenamePattern? = some pattern) (hpattern : Pattern.compile? pattern = none) :
    rules.check = .error .badFilenamePattern := by
  have hfault : filenameFault? rules = some .badFilenamePattern := by
    rw [filenameFault?, hgiven]
    simp [hpattern]
  rw [check, hfault]

theorem Constraint.exists_ofJson_of_ofDocument {constraint : Constraint} {name text : String}
    (h : ofDocument name text = .ok constraint) : ∃ value, Rules.ofJson value = .ok constraint.rules := by
  obtain ⟨subfolder, -, h⟩ := exists_of_bind_eq_ok h
  obtain ⟨block, -, h⟩ := exists_of_bind_eq_ok h
  obtain ⟨value, -, h⟩ := exists_of_bind_eq_ok h
  split at h
  · rename_i rules hrules
    obtain rfl := Except.ok.inj h
    exact ⟨value, hrules⟩
  · cases h

namespace Json.Value

theorem field?_ofFields_last (fields : List (String × Value)) (key : String) (value : Value) :
    (Value.ofFields (fields ++ [(key, value)])).field? key = some value := by
  rw [ofFields, field?, Keyed.get?_ofList_append, if_pos rfl]

end Json.Value

namespace Tool

-- The arguments with which rules are given for a folder.
def ruling (name subfolder : String) (rules : Value) : Value :=
  .object [("knowledge_base_name", .string name), ("rules", rules), ("subfolder", .string subfolder)]

theorem taskOf_ruling (name subfolder : String) (value : Value) :
    taskOf "add_folder_constraint" (ruling name subfolder value) =
      match Rules.checkedOfJson value with
      | .error fault => .error (.badRules fault)
      | .ok rules => .ok ⟨.addConstraint name subfolder rules,
          fun constraint => .ofFields [("folder_constraint", constraint.toJson)]⟩ := rfl

theorem exists_of_taskOf_listing {raw : Value} {task : Task}
    (h : taskOf "list_folder_constraints" raw = .ok task) : ∃ name,
      task = ⟨.constraints name,
        fun found => countedList "folder_constraints" (found.map Constraint.toJson)⟩ := by
  rw [taskOf, show ofName? "list_folder_constraints" = some .listFolderConstraints from rfl] at h
  dsimp only at h
  split at h
  · cases h
  · rename_i arguments _
    exact ⟨arguments.text "knowledge_base_name", (Except.ok.inj h).symm⟩

variable {σ : Type} {policy : Policy σ} {clock : σ → Time.Instant × σ} {root : String} {state : σ}
  {vault : Vault}

-- What a listing shows are constraints of documents that can be read.
theorem shown_of_result (hp : policy.OnlyRefuses) {raw answer : Value}
    (h : result (Tool.run (inMemory policy clock root) "list_folder_constraints" raw).run state vault =
      .ok answer) :
    ∃ shown, answer.field? "folder_constraints" = some (.array shown) ∧ ∀ item ∈ shown,
      ∃ value rules, Rules.ofJson value = .ok rules ∧ item.field? "rules" = some rules.toJson := by
  rw [result_run] at h
  cases htask : taskOf "list_folder_constraints" raw with
  | error fault =>
      rw [htask] at h
      cases h
  | ok task =>
      rw [htask] at h
      obtain ⟨name, rfl⟩ := exists_of_taskOf_listing htask
      obtain ⟨found, hfound, rfl⟩ := exists_of_map_eq_ok h
      have hread : ∀ constraint ∈ found, ∃ text, Constraint.ofDocument name text = .ok constraint := by
        refine Ends.result (fun outcome => ∀ found, outcome = .ok found → ∀ constraint ∈ found,
          ∃ text, Constraint.ofDocument name text = .ok constraint)
          (((works_constraints fun _ => serves_reading).ends_reading hp).mono ?_ ?_) found hfound
        · rintro found _ _ ⟨hread, -⟩ _ ⟨⟩
          exact hread
        · rintro failure _ _ - found ⟨⟩
      refine ⟨found.map Constraint.toJson, Value.field?_ofFields_last [_] _ _, fun item hitem => ?_⟩
      obtain ⟨constraint, hconstraint, rfl⟩ := List.mem_map.mp hitem
      obtain ⟨text, hdocument⟩ := hread constraint hconstraint
      obtain ⟨value, hvalue⟩ := Constraint.exists_ofJson_of_ofDocument hdocument
      exact ⟨value, constraint.rules, hvalue, Value.field?_ofFields_last [_, _] _ _⟩

-- Rules that pass are put on record for every folder of a knowledge base.
theorem result_ruling (hroot : Path.Clean root) (hne : root ≠ "") {rules : Rules}
    (hrules : Rules.checkedOfJson rules.toJson = .ok rules) {name raw folder : String}
    {base : KnowledgeBase}
    (hbase : result ((inMemory .allowing clock root).require name).run state vault = .ok base)
    (hfolder : Path.folder raw = .ok folder) (hwithin : Path.isWithin folder base.subfolder = true) :
    result (Tool.run (inMemory .allowing clock root) "add_folder_constraint"
        (ruling name raw rules.toJson)).run state vault =
      .ok (.ofFields [("folder_constraint", (Constraint.mk name folder rules).toJson)]) := by
  obtain ⟨rfl, -, -⟩ := Path.folder_eq_ok hfolder
  have hkept : KnowledgeBase.checkName name = .ok () ∧ base.name = name ∧ vault.Keeps root base := by
    refine Ends.result (fun outcome => outcome = .ok base → _)
      ((ends_require Policy.onlyRefuses_allowing hroot hne).mono ?_ ?_) hbase
    · rintro _ _ _ ⟨-, hkept⟩ ⟨⟩
      exact hkept
    · rintro _ _ _ - ⟨⟩
  have hadded : result ((inMemory .allowing clock root).addConstraint name raw rules).run state vault =
      .ok ⟨name, Path.normalize raw, rules⟩ := by
    refine Ends.result (· = .ok ⟨name, Path.normalize raw, rules⟩)
      ((ends_addConstraint hroot hne clock state vault name raw rules).mono ?_ ?_)
    · rintro constraint _ _ ⟨rfl, -⟩
      rfl
    · rintro _ _ _ ⟨-, hfailed⟩
      obtain ⟨hname, hsame, hkeeps⟩ := hkept
      exact absurd (Rules.checkedOfJson_eq_ok hrules).2
        (hfailed base _ hname hsame hkeeps hfolder hwithin)
  rw [result_run, taskOf_ruling, hrules]
  dsimp only
  rw [carryOut, hadded]
  rfl

-- Rules with a pattern for file names that does not compile are refused, whatever they
-- are for.
theorem result_ruling_of_not_compiles {rules : Rules} (hrules : Rules.ofJson rules.toJson = .ok rules)
    {pattern : String} (hgiven : rules.filenamePattern? = some pattern)
    (hpattern : Pattern.compile? pattern = none) (name raw : String) :
    result (Tool.run (inMemory policy clock root) "add_folder_constraint"
        (ruling name raw rules.toJson)).run state vault = .error (.badRules .badFilenamePattern) := by
  have hchecked : Rules.checkedOfJson rules.toJson = .error .badFilenamePattern := by
    rw [Rules.checkedOfJson, hrules]
    simp only [bind, Except.bind, Rules.check_eq_error hgiven hpattern]
  rw [result_run, taskOf_ruling, hchecked]

end Tool

section

variable {σ : Type} {policy : Policy σ} {clock : σ → Time.Instant × σ} {root : String}

-- Rules come back as they were from the form in which they are shown. It is the form in
-- which they were given, but for unknown fields and nulls, and neither matters. What a
-- listing shows is therefore taken again as it stands, unless it has a pattern for file
-- names that does not compile: such a document can be read, but not made.
theorem rules_return (hp : policy.OnlyRefuses) (hroot : Path.Clean root) (hne : root ≠ "") :
    (∀ value rules, Rules.ofJson value = .ok rules →
      Rules.ofJson rules.toJson = .ok rules ∧
        Rules.checkedOfJson rules.toJson = Rules.checkedOfJson value ∧
        Rules.Alike value rules.toJson ∧
        ∀ other, Rules.Alike value other → Rules.ofJson other = .ok rules) ∧
    ∀ raw state vault answer,
      result (Tool.run (inMemory policy clock root) "list_folder_constraints" raw).run state vault =
        .ok answer →
      ∃ shown, answer.field? "folder_constraints" = some (.array shown) ∧ ∀ item ∈ shown,
        ∃ rules : Rules, item.field? "rules" = some rules.toJson ∧
          Rules.ofJson rules.toJson = .ok rules ∧
          (rules.Compiles →
            ∀ (name given folder : String) (base : KnowledgeBase) (next : σ) (later : Vault),
              result ((inMemory .allowing clock root).require name).run next later = .ok base →
              Path.folder given = .ok folder → Path.isWithin folder base.subfolder = true →
              result (Tool.run (inMemory .allowing clock root) "add_folder_constraint"
                  (Tool.ruling name given rules.toJson)).run next later =
                .ok (.ofFields [("folder_constraint", (Constraint.mk name folder rules).toJson)])) ∧
          ∀ pattern, rules.filenamePattern? = some pattern → Pattern.compile? pattern = none →
            ∀ (name given : String) (next : σ) (later : Vault),
              result (Tool.run (inMemory policy clock root) "add_folder_constraint"
                (Tool.ruling name given rules.toJson)).run next later =
                  .error (.badRules .badFilenamePattern) := by
  have hreturn : ∀ {value rules}, Rules.ofJson value = .ok rules →
      Rules.ofJson rules.toJson = .ok rules :=
    fun h => (Rules.ofJson_congr (Rules.alike_toJson h)).symm.trans h
  refine ⟨fun value rules h => ?_, fun raw state vault answer h => ?_⟩
  · exact ⟨hreturn h, (Rules.checkedOfJson_congr (Rules.alike_toJson h)).symm, Rules.alike_toJson h,
      fun other halike => (Rules.ofJson_congr halike).symm.trans h⟩
  · obtain ⟨shown, hshown, hitems⟩ := Tool.shown_of_result hp h
    refine ⟨shown, hshown, fun item hitem => ?_⟩
    obtain ⟨value, rules, hvalue, hrules⟩ := hitems item hitem
    have hread := hreturn hvalue
    refine ⟨rules, hrules, hread, fun hcompiles name given folder base next later => ?_,
      fun pattern hgiven hpattern name given next later =>
        Tool.result_ruling_of_not_compiles hread hgiven hpattern name given⟩
    refine Tool.result_ruling hroot hne ?_
    have hcheck := (Rules.isShaped_of_ofJson hvalue).check_eq_ok hcompiles
    rw [Rules.checkedOfJson, hread]
    simp only [bind, Except.bind, hcheck]
    rfl

end

-- Unknown fields at every level, and nulls for parts of every kind. A document by hand
-- with a null and an unknown field is listed, and what is shown is given again.
theorem rules_return_by_hand :
    let field : Value := .object [("allowed_values", .array [.null, .bool true]), ("hint", .string "x"),
      ("name", .string "tag"), ("pattern", .null), ("type", .string "string")]
    let value : Value := .object [("content", .object [("max_length", .null),
        ("min_length", .number (.integer 3)), ("unit", .string "char")]),
      ("filename", .null),
      ("frontmatter", .object [("required_fields", .array [field]), ("since", .null)]),
      ("version", .number (.integer 1))]
    let rules : Rules := ⟨some ⟨some [⟨"tag", .string, none, some [.null, .bool true]⟩]⟩, none,
      some ⟨some 3, none, none⟩⟩
    let team : KnowledgeBase := .bare "team" "docs"
    let registry : Registry (Session Unit) := inMemory .allowing (fun _ => (team.createTime, ())) ".kb"
    let text := "---\nsubfolder: docs/plan\n---\n\x60\x60\x60\nfilename: null\ncontent:\n" ++
      "  min_length: 3\n  unit: char\n\x60\x60\x60\n"
    let vault := (Vault.empty.withFile (recordPlace ".kb" "team") team.record).withFile
      ".kb/team/folder_constraints/docs_plan.md" text
    let shown : Value := .object [("content", .object [("min_length", .number (.integer 3))])]
    let listed : Value := .object [("kb_name", .string "team"), ("rules", shown),
      ("subfolder", .string "docs/plan")]
    Rules.ofJson rules.toJson = .ok rules ∧
      Rules.checkedOfJson rules.toJson = Rules.checkedOfJson value ∧
      result (Tool.run registry "list_folder_constraints"
          (.object [("knowledge_base_name", .string "team")])).run () vault =
        .ok (.object [("count", .number (.integer 1)), ("folder_constraints", .array [listed])]) ∧
      result (Tool.run registry "add_folder_constraint" (Tool.ruling "team" "docs//all" shown)).run () vault =
        .ok (.object [("folder_constraint", .object [("kb_name", .string "team"), ("rules", shown),
          ("subfolder", .string "docs/all")])]) := by
  intro field value rules team registry text vault shown listed
  have hvalue : Rules.ofJson value = .ok rules := by decide
  have hlist : result (Tool.run registry "list_folder_constraints"
      (.object [("knowledge_base_name", .string "team")])).run () vault =
        .ok (.object [("count", .number (.integer 1)), ("folder_constraints", .array [listed])]) := by
    decide +kernel
  obtain ⟨hreturn, hlisting⟩ := rules_return Policy.onlyRefuses_allowing
    (show Path.Clean ".kb" from ⟨by decide, by decide⟩) (by decide)
  obtain ⟨hread, hchecked, -⟩ := hreturn value rules hvalue
  obtain ⟨items, hitems, hshown⟩ := hlisting _ () vault _ hlist
  obtain rfl : [listed] = items := Value.array.inj (Option.some.inj hitems)
  obtain ⟨found, hfound, hagain, hgives, -⟩ := hshown listed List.mem_cons_self
  obtain rfl : found = ⟨none, none, some ⟨some 3, none, none⟩⟩ := by
    rw [← Option.some.inj hfound] at hagain
    exact (Except.ok.inj hagain).symm
  have hbase : result (registry.require "team").run () vault = .ok team := by decide +kernel
  have hgiven := hgives (fun _ h => nomatch h) "team" "docs//all" "docs/all" team () vault hbase
    (by decide) (by decide)
  exact ⟨hread, hchecked, hlist, hgiven⟩

-- A document by hand with a pattern for file names that does not compile is listed, and
-- what is shown of it is refused. A null among the allowed values is one of them.
theorem rules_return_refused :
    let team : KnowledgeBase := .bare "team" "docs"
    let registry : Registry (Session Unit) := inMemory .allowing (fun _ => (team.createTime, ())) ".kb"
    let text := "---\nsubfolder: docs\n---\n\x60\x60\x60\nfilename:\n  pattern: (\n\x60\x60\x60\n"
    let vault := (Vault.empty.withFile (recordPlace ".kb" "team") team.record).withFile
      ".kb/team/folder_constraints/docs.md" text
    let shown : Value := .object [("filename", .object [("pattern", .string "(")])]
    let listed : Value := .object [("kb_name", .string "team"), ("rules", shown),
      ("subfolder", .string "docs")]
    let allowing := fun (values : List Value) => Value.object [("frontmatter", .object
      [("required_fields", .array [.object [("allowed_values", .array values), ("name", .string "tag"),
        ("type", .string "string")]])])]
    result (registry.require "team").run () vault = .ok team ∧
      result (Tool.run registry "list_folder_constraints"
          (.object [("knowledge_base_name", .string "team")])).run () vault =
        .ok (.object [("count", .number (.integer 1)), ("folder_constraints", .array [listed])]) ∧
      result (Tool.run registry "add_folder_constraint" (Tool.ruling "team" "docs" shown)).run () vault =
        .error (.badRules .badFilenamePattern) ∧
      Rules.ofJson (allowing [.null]) ≠ Rules.ofJson (allowing []) := by
  decide +kernel

end NoteVault
