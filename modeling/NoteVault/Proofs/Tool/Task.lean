import NoteVault.Proofs.Program.Session
import NoteVault.Proofs.Registry.Operation
import NoteVault.Tool.Request

namespace NoteVault

open Json Registry Session

namespace Json.Value

-- An object has no fields but those that it is made of.
theorem field?_ofFields_eq_none {key : String} {fields : List (String × Value)}
    (h : key ∉ fields.map Prod.fst) : (Value.ofFields fields).field? key = none := by
  suffices hfold : ∀ sorted : Keyed Value, Keyed.get? key sorted = none →
      Keyed.get? key (fields.foldl (fun sorted entry => Keyed.insert entry.1 entry.2 sorted) sorted) =
        none from hfold [] rfl
  induction fields with
  | nil => exact fun _ hsorted => hsorted
  | cons field rest ih =>
      intro sorted hsorted
      rw [List.map_cons, List.mem_cons, not_or] at h
      refine ih h.2 _ ?_
      rw [Keyed.get?_insert, if_neg h.1]
      exact hsorted

end Json.Value

namespace Tool

-- The operation behind a call of a tool, and the answer that its result makes.
structure Task where
  {Result : Type}
  operation : Operation Result
  answer : Result → Value

-- What a tool does with arguments that suit its parameters. An update without changes
-- and rules that are malformed are refused before anything is done.
def task (arguments : Arguments) : Tool → Except Failure Task
  | .listKnowledgeBases =>
    .ok ⟨.list, fun found => countedList "knowledge_bases" (found.map Summary.toJson)⟩
  | .addKnowledgeBase =>
    .ok ⟨.add (wish arguments), fun base => .ofFields [("knowledge_base", base.toJson)]⟩
  | .updateKnowledgeBase =>
    if (change arguments).isEmpty then .error (.badInput .emptyUpdate)
    else .ok ⟨.update (arguments.text "name") (change arguments),
      fun base => .ofFields [("knowledge_base", base.toJson)]⟩
  | .addFolderConstraint =>
    match Rules.checkedOfJson (arguments.document "rules") with
    | .error fault => .error (.badRules fault)
    | .ok rules =>
      .ok ⟨.addConstraint (arguments.text "knowledge_base_name") (arguments.text "subfolder") rules,
        fun constraint => .ofFields [("folder_constraint", constraint.toJson)]⟩
  | .listFolderConstraints =>
    .ok ⟨.constraints (arguments.text "knowledge_base_name"),
      fun found => countedList "folder_constraints" (found.map Constraint.toJson)⟩
  | .createNote =>
    .ok ⟨.createNote (arguments.text "knowledge_base_name") (arguments.text "path")
      (arguments.text "content"), NoteOutcome.toJson⟩
  | .readNote =>
    .ok ⟨.readNote (arguments.text "knowledge_base_name") (arguments.text "path"),
      NoteContent.toJson⟩
  | .updateNote =>
    .ok ⟨.updateNote (arguments.text "knowledge_base_name") (arguments.text "path")
      (arguments.text "content"), NoteOutcome.toJson⟩
  | .appendNote =>
    .ok ⟨.appendNote (arguments.text "knowledge_base_name") (arguments.text "path")
      (arguments.text "content"), NoteOutcome.toJson⟩
  | .moveNote =>
    .ok ⟨.moveNote (arguments.text "knowledge_base_name") (arguments.text "source_path")
      (arguments.text "destination_path"), NoteOutcome.toJson⟩
  | .deleteNote =>
    .ok ⟨.deleteNote (arguments.text "knowledge_base_name") (arguments.text "path"),
      fun path => .ofFields [("path", .string path), ("deleted", .bool true)]⟩
  | .listNotes =>
    .ok ⟨.listNotes (arguments.text "knowledge_base_name") ((arguments.text? "folder").getD "")
      ((arguments.flag? "recursive").getD true),
      fun notes => countedList "notes" (notes.map .string)⟩

-- The task of a call. The tool has to be known, and the arguments have to suit it.
def taskOf (name : String) (raw : Value) : Except Failure Task :=
  match ofName? name with
  | none => .error (.badInput (.unknownTool name))
  | some tool =>
    match tool.parameters.arguments raw with
    | .error fault => .error (.badInput (.badArguments tool.name fault))
    | .ok arguments => tool.task arguments

-- No answer of a task has a field that is named like that of a failure, whatever the
-- names and the texts in the vault are.
theorem field?_answer {tool : Tool} {arguments : Arguments} {task : Task}
    (h : tool.task arguments = .ok task) (found : task.Result) :
    (task.answer found).field? "error" = none := by
  have hcounted : ∀ {name : String} (items : List Value), name ≠ "error" →
      (countedList name items).field? "error" = none := fun items hname =>
    Value.field?_ofFields_eq_none (by simp [Ne.symm hname])
  have houtcome : ∀ outcome : NoteOutcome, outcome.toJson.field? "error" = none := by
    rintro ⟨path, _ | ⟨folder, validation⟩⟩
    · exact Value.field?_ofFields_eq_none (by simp)
    · exact Value.field?_ofFields_eq_none (by simp)
  cases tool with
  | listKnowledgeBases | listFolderConstraints | listNotes =>
      obtain rfl := Except.ok.inj h
      exact hcounted _ (by decide)
  | addKnowledgeBase | deleteNote =>
      obtain rfl := Except.ok.inj h
      exact Value.field?_ofFields_eq_none (by simp)
  | updateKnowledgeBase =>
      rw [Tool.task] at h
      split at h
      · cases h
      · obtain rfl := Except.ok.inj h
        exact Value.field?_ofFields_eq_none (by simp)
  | addFolderConstraint =>
      rw [Tool.task] at h
      split at h
      · cases h
      · obtain rfl := Except.ok.inj h
        exact Value.field?_ofFields_eq_none (by simp)
  | createNote | updateNote | appendNote | moveNote =>
      obtain rfl := Except.ok.inj h
      exact houtcome found
  | readNote =>
      obtain rfl := Except.ok.inj h
      exact Value.field?_ofFields_eq_none (by simp)

-- A field of that name in a note is not one of the answer.
example : (NoteContent.toJson ⟨"n.md", "---\nerror: x\n---\n"⟩).field? "error" = none := by decide

theorem exists_of_taskOf {name : String} {raw : Value} {task : Task}
    (h : taskOf name raw = .ok task) : ∃ (tool : Tool) (arguments : Arguments),
      tool.task arguments = .ok task := by
  rw [taskOf] at h
  split at h
  · cases h
  · rename_i tool _
    split at h
    · cases h
    · rename_i arguments _
      exact ⟨tool, arguments, h⟩

variable {σ α : Type} (registry : Registry (Session σ)) (state : σ) (vault : Vault)

theorem result_map (work : Work (Session σ) α) (answer : α → Value) :
    result (do return answer (← work) : Work (Session σ) Value).run state vault =
      (result work.run state vault).map answer := by
  have hrun : (do return answer (← work) : Work (Session σ) Value).run state vault =
      ExceptT.bindCont (fun found => (pure (answer found) : Work (Session σ) Value))
        (work.run state vault).1.1 (work.run state vault).1.2 (work.run state vault).2 := rfl
  rw [result, hrun, result]
  cases (work.run state vault).1.1 <;> rfl

-- A tool answers with the result of its operation, and fails as the operation does.
theorem result_perform (arguments : Arguments) (tool : Tool) :
    result (tool.perform registry arguments).run state vault =
      match tool.task arguments with
      | .error failure => .error failure
      | .ok task => (result (registry.carryOut task.operation).run state vault).map task.answer := by
  cases tool with
  | updateKnowledgeBase =>
      rw [perform, Tool.task]
      split
      · rfl
      · exact result_map state vault _ _
  | addFolderConstraint =>
      rw [perform, Tool.task]
      cases Rules.checkedOfJson (arguments.document "rules") with
      | error fault => rfl
      | ok rules => exact result_map state vault _ _
  | listKnowledgeBases | addKnowledgeBase | listFolderConstraints | createNote | readNote | updateNote
  | appendNote | moveNote | deleteNote | listNotes => exact result_map state vault _ _

theorem result_run (name : String) (raw : Value) :
    result (Tool.run registry name raw).run state vault =
      match taskOf name raw with
      | .error failure => .error failure
      | .ok task => (result (registry.carryOut task.operation).run state vault).map task.answer := by
  rw [Tool.run, taskOf]
  cases ofName? name with
  | none => rfl
  | some tool =>
      dsimp only
      cases tool.parameters.arguments raw with
      | error fault => rfl
      | ok arguments => exact result_perform registry state vault arguments tool

theorem result_answer (name : String) (raw : Value) :
    result (Tool.answer registry name raw) state vault =
      match result (Tool.run registry name raw).run state vault with
      | .ok found => found
      | .error failure => failure.toJson := by
  rw [Tool.answer, result_bind]
  cases result (Tool.run registry name raw).run state vault <;> rfl

end Tool

end NoteVault
