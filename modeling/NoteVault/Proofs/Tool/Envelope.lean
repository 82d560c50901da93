import NoteVault.Proofs.Text.Line
import NoteVault.Proofs.Tool.Calls

namespace NoteVault

open Json Registry Session

-- Two fields come in the order of their names.
theorem Json.Value.ofFields_pair {first second : String} (h : first < second) (left right : Value) :
    Value.ofFields [(second, right), (first, left)] = .object [(first, left), (second, right)] ∧
      Value.ofFields [(first, left), (second, right)] = .object [(first, left), (second, right)] := by
  have hback : ¬second < first := fun hlt => String.lt_irrefl _ (String.lt_trans h hlt)
  have hne : second ≠ first := fun he => String.lt_irrefl _ (he ▸ h)
  simp only [ofFields, Keyed.ofList, List.foldl_cons, List.foldl_nil, Keyed.insert, h, hback, hne,
    if_true, if_false, and_self]

theorem Text.trimmed_eq_empty_iff (text : String) :
    Text.trimmed text = "" ↔ Text.isAllBlank text = true := by
  have hlist : Text.trimmed text = "" ↔ Text.trim text.toList = [] := by
    rw [Text.trimmed, ← String.toList_inj, String.toList_ofList]
    rfl
  rw [hlist, Text.trim_eq_nil_iff, Text.isAllBlank, List.all_eq_true]

-- What a failure tells: its kind, its message, and the issues of a note that breaks
-- its rules.
def Failure.fields : Failure → List (String × Value)
  | .violation path issues =>
    [("issues", .array (issues.map Issue.toJson)), ("kind", .string (violation path issues).kind),
      ("message", .string (violation path issues).message)]
  | failure => [("kind", .string failure.kind), ("message", .string failure.message)]

theorem Failure.field?_toJson (failure : Failure) :
    failure.toJson.field? "error" = some (.object failure.fields) := by
  have hissues : ("issues" : String) < "kind" := by decide
  have hsingle : ∀ body : Value, (Value.ofFields [("error", body)]).field? "error" = some body :=
    fun body => Keyed.get?_insert_self "error" body []
  have hpair := (Value.ofFields_pair (show "kind" < "message" by decide) (.string failure.kind)
    (.string failure.message)).2
  have hbody : Value.ofFields
      ([("kind", .string failure.kind), ("message", .string failure.message)] ++
        failure.issues?.toList.map fun issues => ("issues", .array (issues.map Issue.toJson))) =
      .object failure.fields := by
    cases failure with
    | violation path issues =>
        have hfields := Value.object.inj hpair
        rw [Value.ofFields, Failure.issues?, Option.toList_some, List.map_singleton, Keyed.ofList,
          List.foldl_append, ← Keyed.ofList, hfields]
        simp only [List.foldl_cons, List.foldl_nil, Keyed.insert, hissues, if_true, Failure.fields]
    | knowledgeBaseNotFound | knowledgeBaseExists | subfolderOverlap | noteNotFound | noteExists
    | badPath | badRules | storage | badInput | badDocument | badSettings => exact hpair
  rw [Failure.toJson, hbody, hsingle]

namespace Request

-- The id that a line gives, if it can be read and gives one.
def lineId (line : String) : Value :=
  match read (Text.trimmed line) with
  | some value => (value.field? "id").getD .null
  | none => .null

variable {σ : Type} (registry : Registry (Session σ)) (state : σ) (vault : Vault)

-- The ways in which a line fails: it cannot be read, its method or its tool is missing or
-- unknown, the call is refused, or the operation that it asks for fails.
inductive Fails (line : String) : Failure → Prop
  | unreadable (hread : read (Text.trimmed line) = none) : Fails line (.badInput .malformedRequest)
  | noMethod {value : Value} (hread : read (Text.trimmed line) = some value)
    (hmethod : ∀ method, value.field? "method" ≠ some (.string method)) :
    Fails line (.badInput (.unknownMethod ""))
  | unknownMethod {value : Value} {method : String} (hread : read (Text.trimmed line) = some value)
    (hmethod : value.field? "method" = some (.string method)) (hlist : method ≠ "list_tools")
    (hcall : method ≠ "call") : Fails line (.badInput (.unknownMethod method))
  | noTool {value : Value} (hread : read (Text.trimmed line) = some value)
    (hmethod : value.field? "method" = some (.string "call"))
    (htool : ∀ name, value.field? "tool" ≠ some (.string name)) :
    Fails line (.badInput .unnamedTool)
  | refused {value : Value} {name : String} {failure : Failure}
    (hread : read (Text.trimmed line) = some value)
    (hmethod : value.field? "method" = some (.string "call"))
    (htool : value.field? "tool" = some (.string name))
    (hrefuses : Tool.Refuses ((value.field? "arguments").getD .null) name failure) :
    Fails line failure
  | failed {value : Value} {name : String} {task : Tool.Task} {failure : Failure}
    (hread : read (Text.trimmed line) = some value)
    (hmethod : value.field? "method" = some (.string "call"))
    (htool : value.field? "tool" = some (.string name))
    (hcalls : Tool.Calls ((value.field? "arguments").getD .null) name task)
    (hfailed : result (registry.carryOut task.operation).run state vault = .error failure) :
    Fails line failure

-- The ways in which a line succeeds.
inductive Yields (line : String) : Value → Prop
  | catalogue {value : Value} (hread : read (Text.trimmed line) = some value)
    (hmethod : value.field? "method" = some (.string "list_tools")) :
    Yields line (.ofFields [("tools", .array (Tool.all.map Tool.toJson))])
  | found {value : Value} {name : String} {task : Tool.Task} {found : task.Result}
    (hread : read (Text.trimmed line) = some value)
    (hmethod : value.field? "method" = some (.string "call"))
    (htool : value.field? "tool" = some (.string name))
    (hcalls : Tool.Calls ((value.field? "arguments").getD .null) name task)
    (hfound : result (registry.carryOut task.operation).run state vault = .ok found) :
    Yields line (task.answer found)

theorem addressed_failure (id : Value) (failure : Failure) :
    addressed id failure.toJson = .object [("error", .object failure.fields), ("id", id)] := by
  rw [addressed, failure.field?_toJson]
  exact (Value.ofFields_pair (by decide) _ _).1

theorem addressed_answer (id : Value) {answer : Value} (h : answer.field? "error" = none) :
    addressed id answer = .object [("id", id), ("result", answer)] := by
  rw [addressed, h]
  exact (Value.ofFields_pair (by decide) _ _).2

-- A call is answered with what becomes of its task.
theorem result_call {request : Request} {name : String} (hmethod : request.method = "call")
    (htool : request.tool = some name) :
    result (request.answer registry) state vault =
      match Tool.taskOf name request.arguments with
      | .error failure => failure.toJson
      | .ok task =>
        match result (registry.carryOut task.operation).run state vault with
        | .ok found => task.answer found
        | .error failure => failure.toJson := by
  rw [answer, hmethod, if_neg (by decide), if_pos rfl, htool]
  dsimp only
  rw [Tool.result_answer, Tool.result_run]
  cases Tool.taskOf name request.arguments with
  | error failure => rfl
  | ok task =>
      cases hrun : result (registry.carryOut task.operation).run state vault <;>
        simp only [hrun, Except.map]

section

variable {value : Value} {text : String}

theorem method_ofJson (h : value.field? "method" = some (.string text)) :
    (ofJson value).method = text := by
  rw [ofJson, h]
  rfl

theorem tool_ofJson (h : value.field? "tool" = some (.string text)) :
    (ofJson value).tool = some text := by
  rw [ofJson, h]
  rfl

theorem bind_string?_eq_none {value? : Option Value} (h : ∀ text, value? ≠ some (.string text)) :
    value?.bind Value.string? = none := by
  rcases value? with _ | value
  · rfl
  · cases value <;> first | rfl | exact absurd rfl (h _)

end

-- Each line fails or succeeds.
theorem fails_or_yields (line : String) :
    (∃ failure, Fails registry state vault line failure) ∨
      ∃ answer, Yields registry state vault line answer := by
  cases hread : read (Text.trimmed line) with
  | none => exact .inl ⟨_, .unreadable hread⟩
  | some value =>
      by_cases hmethod : ∃ method, value.field? "method" = some (.string method)
      swap
      · exact .inl ⟨_, .noMethod hread (not_exists.mp hmethod)⟩
      obtain ⟨method, hmethod⟩ := hmethod
      by_cases hlist : method = "list_tools"
      · exact .inr ⟨_, .catalogue hread (hlist ▸ hmethod)⟩
      by_cases hcall : method = "call"
      swap
      · exact .inl ⟨_, .unknownMethod hread hmethod hlist hcall⟩
      subst hcall
      by_cases htool : ∃ name, value.field? "tool" = some (.string name)
      swap
      · exact .inl ⟨_, .noTool hread hmethod (not_exists.mp htool)⟩
      obtain ⟨name, htool⟩ := htool
      obtain ⟨task, hcalls⟩ | ⟨failure, hrefuses⟩ :=
        Tool.calls_or_refuses ((value.field? "arguments").getD .null) name
      · cases hrun : result (registry.carryOut task.operation).run state vault with
        | error failure => exact .inl ⟨_, .failed hread hmethod htool hcalls hrun⟩
        | ok found => exact .inr ⟨_, .found hread hmethod htool hcalls hrun⟩
      · exact .inl ⟨_, .refused hread hmethod htool hrefuses⟩

theorem result_answerLine (line : String) :
    result (answerLine? registry line) state vault =
      if Text.isAllBlank line then none
      else some <|
        match read (Text.trimmed line) with
        | none => addressed .null (refusal .malformedRequest)
        | some value =>
          addressed (ofJson value).id (result ((ofJson value).answer registry) state vault) := by
  rw [answerLine?]
  split
  · rfl
  · cases read (Text.trimmed line) <;> rfl

section

variable {line : String} {value : Value} (hblank : ¬Text.isAllBlank line = true)
include hblank

theorem answerLine_of_read (hread : read (Text.trimmed line) = some value) :
    result (answerLine? registry line) state vault =
      some (addressed (lineId line) (result ((ofJson value).answer registry) state vault)) := by
  rw [result_answerLine, if_neg hblank, lineId, hread]
  rfl

-- What a line is answered that fails.
theorem answerLine_of_fails {failure : Failure} (h : Fails registry state vault line failure) :
    result (answerLine? registry line) state vault =
      some (.object [("error", .object failure.fields), ("id", lineId line)]) := by
  have hanswered : ∀ {value : Value}, read (Text.trimmed line) = some value →
      result ((ofJson value).answer registry) state vault = failure.toJson →
      result (answerLine? registry line) state vault =
        some (.object [("error", .object failure.fields), ("id", lineId line)]) := by
    intro value hread hanswer
    rw [answerLine_of_read registry state vault hblank hread, hanswer, addressed_failure]
  cases h with
  | unreadable hread =>
      rw [result_answerLine, if_neg hblank, lineId, hread]
      exact congrArg some (addressed_failure .null _)
  | noMethod hread hmethod =>
      have hnone : (ofJson _).method = "" :=
        congrArg (Option.getD · "") (bind_string?_eq_none hmethod)
      refine hanswered hread ?_
      rw [answer, hnone]
      rfl
  | unknownMethod hread hmethod hlist hcall =>
      refine hanswered hread ?_
      rw [answer, method_ofJson hmethod, if_neg hlist, if_neg hcall]
      rfl
  | noTool hread hmethod htool =>
      have hnone : (ofJson _).tool = none := bind_string?_eq_none htool
      refine hanswered hread ?_
      rw [answer, method_ofJson hmethod, hnone]
      rfl
  | refused hread hmethod htool hrefuses =>
      have htask : Tool.taskOf _ (ofJson _).arguments = _ := Tool.taskOf_of_refuses hrefuses
      refine hanswered hread ?_
      rw [result_call registry state vault (method_ofJson hmethod) (tool_ofJson htool), htask]
  | failed hread hmethod htool hcalls hfailed =>
      have htask : Tool.taskOf _ (ofJson _).arguments = _ := Tool.taskOf_of_calls hcalls
      refine hanswered hread ?_
      rw [result_call registry state vault (method_ofJson hmethod) (tool_ofJson htool), htask]
      simp only [hfailed]

-- What a line is answered that succeeds. No name or text in the vault makes a field of the
-- answer that is called like that of a failure.
theorem answerLine_of_yields {answer : Value} (h : Yields registry state vault line answer) :
    result (answerLine? registry line) state vault =
      some (.object [("id", lineId line), ("result", answer)]) := by
  cases h with
  | catalogue hread hmethod =>
      rw [answerLine_of_read registry state vault hblank hread, Request.answer,
        method_ofJson hmethod, if_pos rfl]
      exact congrArg some (addressed_answer _ (Value.field?_ofFields_eq_none (by simp)))
  | found hread hmethod htool hcalls hfound =>
      have htask : Tool.taskOf _ (ofJson _).arguments = _ := Tool.taskOf_of_calls hcalls
      obtain ⟨tool, arguments, htool'⟩ := Tool.exists_of_taskOf htask
      rw [answerLine_of_read registry state vault hblank hread,
        result_call registry state vault (method_ofJson hmethod) (tool_ofJson htool), htask]
      simp only [hfound]
      exact congrArg some (addressed_answer _ (Tool.field?_answer htool' _))

end

-- Whatever a line and a vault hold, the answer tells a failure from a success: blank lines
-- get none, each other line fails or succeeds, and its answer has the id and either the error
-- or the result.
theorem answerLine_envelope (line : String) :
    (result (answerLine? registry line) state vault = none ↔ Text.trimmed line = "") ∧
      ∀ response, result (answerLine? registry line) state vault = some response →
        (∀ failure, Fails registry state vault line failure →
          response = .object [("error", .object failure.fields), ("id", lineId line)]) ∧
        (∀ answer, Yields registry state vault line answer →
          response = .object [("id", lineId line), ("result", answer)]) ∧
        ((∃ failure, Fails registry state vault line failure) ∨
          ∃ answer, Yields registry state vault line answer) := by
  rw [Text.trimmed_eq_empty_iff]
  by_cases hblank : Text.isAllBlank line = true
  · rw [result_answerLine, if_pos hblank]
    exact ⟨iff_of_true rfl hblank, nofun⟩
  refine ⟨iff_of_false ?_ hblank, fun response hresponse => ⟨fun failure hfails => ?_,
    fun answer hyields => ?_, fails_or_yields registry state vault line⟩⟩
  · rw [result_answerLine, if_neg hblank]
    exact nofun
  · have hanswered := answerLine_of_fails registry state vault hblank hfails
    exact Option.some.inj (hresponse.symm.trans hanswered)
  · have hanswered := answerLine_of_yields registry state vault hblank hyields
    exact Option.some.inj (hresponse.symm.trans hanswered)

-- A note is read that has a field in its header named like a failure, and one that is not there
-- is asked for.
theorem answerLine_envelope_note :
    let base : KnowledgeBase := ⟨"work", ⟨⟨2024, 5, 17⟩, 8, 30, 0, 0⟩, "", "notes/work", ""⟩
    let registry : Registry (Session Unit) := inMemory .allowing (fun _ => (base.createTime, ())) ".kb"
    let vault := (Vault.empty.withFile ".kb/work/meta.md" base.record).withFile
      "notes/work/plan.md" "---\nerror: late\n---\n"
    let line := fun path => (Value.object [
      ("arguments", .object [("knowledge_base_name", .string "work"), ("path", .string path)]),
      ("id", .ofNat 7), ("method", .string "call"), ("tool", .string "read_note")]).compact
    result (answerLine? registry (line "plan")) () vault = some (.object [("id", .ofNat 7),
        ("result", NoteContent.toJson ⟨"notes/work/plan.md", "---\nerror: late\n---\n"⟩)]) ∧
      result (answerLine? registry (line "log")) () vault = some (.object
        [("error", .object (Failure.noteNotFound "notes/work/log.md").fields), ("id", .ofNat 7)]) := by
  intro base registry vault line
  let arguments := fun path => Value.object
    [("knowledge_base_name", .string "work"), ("path", .string path)]
  have hcalls : ∀ path, Tool.Calls (arguments path) "read_note"
      ⟨.readNote "work" path, NoteContent.toJson⟩ := fun path => by
    refine ⟨_, rfl, ?_, .readNote rfl rfl⟩
    simp [Tool.Suits, Tool.Takes, Keyed.get?, arguments]
  have hread : ∀ path ∈ ["plan", "log"], read (Text.trimmed (line path)) = some (.object
      [("arguments", arguments path), ("id", .ofNat 7), ("method", .string "call"),
        ("tool", .string "read_note")]) := by decide +kernel
  have hid : ∀ path ∈ ["plan", "log"], lineId (line path) = .ofNat 7 := by
    intro path hpath
    rw [lineId, hread path hpath]
    rfl
  have hfound : result (registry.carryOut (.readNote "work" "plan")).run () vault =
      .ok ⟨"notes/work/plan.md", "---\nerror: late\n---\n"⟩ := by decide +kernel
  have hmissing : result (registry.carryOut (.readNote "work" "log")).run () vault =
      .error (.noteNotFound "notes/work/log.md") := by decide +kernel
  have hanswered : ∀ path ∈ ["plan", "log"], ∃ response,
      result (answerLine? registry (line path)) () vault = some response := by
    intro path hpath
    refine Option.ne_none_iff_exists'.mp fun hnone => ?_
    have hsome := hread path hpath
    rw [(answerLine_envelope registry () vault (line path)).1.mp hnone] at hsome
    cases hsome
  constructor
  · obtain ⟨response, hresponse⟩ := hanswered "plan" (by decide)
    obtain ⟨-, hyields, -⟩ := (answerLine_envelope registry () vault _).2 response hresponse
    rw [hresponse, hyields _ (.found (hread _ (by decide)) rfl rfl (hcalls "plan") hfound),
      hid _ (by decide)]
  · obtain ⟨response, hresponse⟩ := hanswered "log" (by decide)
    obtain ⟨hfails, -, -⟩ := (answerLine_envelope registry () vault _).2 response hresponse
    rw [hresponse, hfails _ (.failed (hread _ (by decide)) rfl rfl (hcalls "log") hmissing),
      hid _ (by decide)]

end Request

end NoteVault
