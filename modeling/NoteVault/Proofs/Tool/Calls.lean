import NoteVault.Proofs.Tool.Task

namespace NoteVault

open Json

namespace Keyed

variable {ν : Type} {key : String} {entries : List (String × ν)}

theorem mem_of_get?_eq_some {value : ν} (h : get? key entries = some value) :
    (key, value) ∈ entries := by
  induction entries with
  | nil => cases h
  | cons entry rest ih =>
      obtain ⟨other, first⟩ := entry
      rw [get?] at h
      split at h
      · rename_i hsame
        obtain rfl := Option.some.inj h
        rw [hsame]
        exact List.mem_cons_self
      · exact List.mem_cons_of_mem _ (ih h)

-- Of keys without repetitions none hides another.
theorem get?_ofList_of_nodup (h : (entries.map Prod.fst).Nodup) (key : String) :
    get? key (ofList entries) = get? key entries := by
  suffices hfold : ∀ sorted : Keyed ν,
      get? key (entries.foldl (fun sorted entry => insert entry.1 entry.2 sorted) sorted) =
        (get? key entries).or (get? key sorted) from (hfold []).trans (Option.or_none ..)
  induction entries with
  | nil => exact fun _ => (Option.none_or ..).symm
  | cons entry rest ih =>
      obtain ⟨other, value⟩ := entry
      rw [List.map_cons, List.nodup_cons] at h
      intro sorted
      rw [List.foldl_cons, ih h.2, get?_insert, get?]
      by_cases hkey : key = other
      · have hrest : get? key rest = none := by
          cases hget : get? key rest with
          | none => rfl
          | some later =>
              exact absurd (List.mem_map_of_mem (mem_of_get?_eq_some hget)) (hkey ▸ h.1)
        rw [if_pos hkey, if_pos hkey.symm, hrest]
        rfl
      · rw [if_neg hkey, if_neg (Ne.symm hkey)]

end Keyed

namespace Tool

-- The tools by their names, each with the names and the types of its parameters.
def shape? : String → Option (List (String × ParameterType))
  | "list_knowledge_bases" => some []
  | "add_knowledge_base" =>
    some [("name", .text), ("description", .optionalText), ("subfolder", .text),
      ("organization_rules", .optionalText)]
  | "update_knowledge_base" =>
    some [("name", .text), ("description", .optionalText), ("subfolder", .optionalText),
      ("organization_rules", .optionalText)]
  | "add_folder_constraint" =>
    some [("knowledge_base_name", .text), ("subfolder", .text), ("rules", .document)]
  | "list_folder_constraints" => some [("knowledge_base_name", .text)]
  | "create_note" | "update_note" | "append_note" =>
    some [("knowledge_base_name", .text), ("path", .text), ("content", .text)]
  | "read_note" | "delete_note" => some [("knowledge_base_name", .text), ("path", .text)]
  | "move_note" =>
    some [("knowledge_base_name", .text), ("source_path", .text), ("destination_path", .text)]
  | "list_notes" =>
    some [("knowledge_base_name", .text), ("folder", .optionalText), ("recursive", .optionalFlag)]
  | _ => none

-- A part that is given, or left out, or given as null.
def Optionally {α : Type} (toJson : α → Value) (value? : Option Value) : Option α → Prop
  | some part => value? = some (toJson part)
  | none => value? = none ∨ value? = some .null

-- What a parameter of a type takes. Any value is a document.
def Takes (value? : Option Value) : ParameterType → Prop
  | .text => ∃ text, value? = some (.string text)
  | .optionalText => ∃ text?, Optionally .string value? text?
  | .optionalFlag => ∃ flag?, Optionally .bool value? flag?
  | .document => ∃ value, value? = some value

-- The arguments of a call suit the parameters: fields by their names, of which others do not
-- matter, or one item for each parameter.
def Suits (shape : List (String × ParameterType)) : Value → Prop
  | .null => ∀ parameter ∈ shape, Takes none parameter.2
  | .object fields => ∀ parameter ∈ shape,
    (∀ value, (parameter.1, value) ∈ fields → Takes (some value) parameter.2) ∧
      (Keyed.get? parameter.1 fields = none → Takes none parameter.2)
  | .array items => List.Forall₂ (fun parameter value => Takes (some value) parameter.2) shape items
  | _ => False

-- What is given for a parameter.
def given (shape : List (String × ParameterType)) (raw : Value) (name : String) : Option Value :=
  match raw with
  | .object fields => Keyed.get? name fields
  | .array items => Keyed.get? name ((shape.map Prod.fst).zip items)
  | _ => none

-- What a call asks for by the name of the tool and the arguments: an operation, and the form of
-- the answer.
inductive Asks (arguments : String → Option Value) : String → Task → Prop
  | listKnowledgeBases : Asks arguments "list_knowledge_bases"
    ⟨.list, fun found => countedList "knowledge_bases" (found.map Summary.toJson)⟩
  | addKnowledgeBase {name subfolder : String} {description? rules? : Option String}
    (hname : arguments "name" = some (.string name))
    (hdescription : Optionally .string (arguments "description") description?)
    (hsubfolder : arguments "subfolder" = some (.string subfolder))
    (hrules : Optionally .string (arguments "organization_rules") rules?) :
    Asks arguments "add_knowledge_base"
      ⟨.add ⟨name, description?.getD "", subfolder, rules?.getD ""⟩,
        fun base => .ofFields [("knowledge_base", base.toJson)]⟩
  | updateKnowledgeBase {name : String} {change : KnowledgeBaseChange}
    (hname : arguments "name" = some (.string name))
    (hdescription : Optionally .string (arguments "description") change.description)
    (hsubfolder : Optionally .string (arguments "subfolder") change.subfolder)
    (hrules : Optionally .string (arguments "organization_rules") change.organizationRules)
    (hchange : change ≠ ⟨none, none, none⟩) :
    Asks arguments "update_knowledge_base"
      ⟨.update name change, fun base => .ofFields [("knowledge_base", base.toJson)]⟩
  | addFolderConstraint {name subfolder : String} {value : Value} {rules : Rules}
    (hname : arguments "knowledge_base_name" = some (.string name))
    (hsubfolder : arguments "subfolder" = some (.string subfolder))
    (hvalue : arguments "rules" = some value) (hrules : Rules.checkedOfJson value = .ok rules) :
    Asks arguments "add_folder_constraint"
      ⟨.addConstraint name subfolder rules,
        fun constraint => .ofFields [("folder_constraint", constraint.toJson)]⟩
  | listFolderConstraints {name : String}
    (hname : arguments "knowledge_base_name" = some (.string name)) :
    Asks arguments "list_folder_constraints"
      ⟨.constraints name,
        fun found => countedList "folder_constraints" (found.map Constraint.toJson)⟩
  | createNote {name path content : String}
    (hname : arguments "knowledge_base_name" = some (.string name))
    (hpath : arguments "path" = some (.string path))
    (hcontent : arguments "content" = some (.string content)) :
    Asks arguments "create_note" ⟨.createNote name path content, NoteOutcome.toJson⟩
  | readNote {name path : String} (hname : arguments "knowledge_base_name" = some (.string name))
    (hpath : arguments "path" = some (.string path)) :
    Asks arguments "read_note" ⟨.readNote name path, NoteContent.toJson⟩
  | updateNote {name path content : String}
    (hname : arguments "knowledge_base_name" = some (.string name))
    (hpath : arguments "path" = some (.string path))
    (hcontent : arguments "content" = some (.string content)) :
    Asks arguments "update_note" ⟨.updateNote name path content, NoteOutcome.toJson⟩
  | appendNote {name path content : String}
    (hname : arguments "knowledge_base_name" = some (.string name))
    (hpath : arguments "path" = some (.string path))
    (hcontent : arguments "content" = some (.string content)) :
    Asks arguments "append_note" ⟨.appendNote name path content, NoteOutcome.toJson⟩
  | moveNote {name source target : String}
    (hname : arguments "knowledge_base_name" = some (.string name))
    (hsource : arguments "source_path" = some (.string source))
    (htarget : arguments "destination_path" = some (.string target)) :
    Asks arguments "move_note" ⟨.moveNote name source target, NoteOutcome.toJson⟩
  | deleteNote {name path : String} (hname : arguments "knowledge_base_name" = some (.string name))
    (hpath : arguments "path" = some (.string path)) :
    Asks arguments "delete_note"
      ⟨.deleteNote name path,
        fun path => .ofFields [("path", .string path), ("deleted", .bool true)]⟩
  | listNotes {name : String} {folder? : Option String} {recursive? : Option Bool}
    (hname : arguments "knowledge_base_name" = some (.string name))
    (hfolder : Optionally .string (arguments "folder") folder?)
    (hrecursive : Optionally .bool (arguments "recursive") recursive?) :
    Asks arguments "list_notes"
      ⟨.listNotes name (folder?.getD "") (recursive?.getD true),
        fun notes => countedList "notes" (notes.map .string)⟩

-- A call of a tool with arguments that suit its parameters asks for a task.
def Calls (raw : Value) (name : String) (task : Task) : Prop :=
  ∃ shape, shape? name = some shape ∧ Suits shape raw ∧ Asks (given shape raw) name task

-- The ways in which a call is refused. What unsuitable arguments are blamed for is the first that
-- their reader finds.
inductive Refuses (raw : Value) : String → Failure → Prop
  | unknown {name : String} (hname : shape? name = none) :
    Refuses raw name (.badInput (.unknownTool name))
  | unsuitable {tool : Tool} {shape : List (String × ParameterType)} {fault : ArgumentFault}
    (hshape : shape? tool.name = some shape) (hsuits : ¬Suits shape raw)
    (hfault : tool.parameters.arguments raw = .error fault) :
    Refuses raw tool.name (.badInput (.badArguments tool.name fault))
  | unchanged {shape : List (String × ParameterType)}
    (hshape : shape? "update_knowledge_base" = some shape) (hsuits : Suits shape raw)
    (hchange : ∀ part ∈ ["description", "subfolder", "organization_rules"],
      Optionally .string (given shape raw part) none) :
    Refuses raw "update_knowledge_base" (.badInput .emptyUpdate)
  | malformed {shape : List (String × ParameterType)} {value : Value} {fault : RulesFault}
    (hshape : shape? "add_folder_constraint" = some shape) (hsuits : Suits shape raw)
    (hvalue : given shape raw "rules" = some value)
    (hfault : Rules.checkedOfJson value = .error fault) :
    Refuses raw "add_folder_constraint" (.badRules fault)

-- The names of a tool's parameters with their types.
def shapeOf (parameters : Parameters) : List (String × ParameterType) :=
  parameters.items.map fun parameter => (parameter.name, parameter.type)

theorem shape?_name (tool : Tool) : shape? tool.name = some (shapeOf tool.parameters) := by
  cases tool <;> rfl

theorem nodup_shapeOf (tool : Tool) : ((shapeOf tool.parameters).map Prod.fst).Nodup := by
  cases tool <;> decide

theorem name_of_ofName? {name : String} {tool : Tool} (h : ofName? name = some tool) :
    name = tool.name := by
  have hsame := List.find?_some h
  exact (beq_iff_eq.mp hsame).symm

theorem name_injective : Function.Injective Tool.name := by
  intro tool other h
  exact Option.some.inj ((ofName?_name tool).symm.trans (h ▸ ofName?_name other))

theorem shape?_of_ofName?_none {name : String} (h : ofName? name = none) : shape? name = none := by
  unfold shape?
  split <;> first | rfl | cases h

theorem ofName?_of_shape?_none {name : String} (h : shape? name = none) : ofName? name = none := by
  cases hname : ofName? name with
  | none => rfl
  | some tool =>
      rw [name_of_ofName? hname, shape?_name] at h
      cases h

section

variable {type : ParameterType} {value : Value}

theorem refuses?_eq_none_iff : type.refuses? value = none ↔ Takes (some value) type := by
  cases type <;> cases value <;>
    simp [ParameterType.refuses?, Takes, Optionally, Option.exists]

theorem takes_none_iff : Takes none type ↔ type.isRequired = false := by
  cases type <;> simp [ParameterType.isRequired, Takes, Optionally, Option.exists]

end

section

variable {parameters : Parameters} (hnodup : ((shapeOf parameters).map Prod.fst).Nodup)
include hnodup

-- A field is right when the parameter of its name takes it, if there is one.
theorem fieldFault?_eq_none_iff (field : String × Value) :
    parameters.fieldFault? field = none ↔
      ∀ parameter ∈ shapeOf parameters,
        parameter.1 = field.1 → Takes (some field.2) parameter.2 := by
  rw [Parameters.fieldFault?]
  cases hfind : parameters.items.find? fun parameter => parameter.name == field.1 with
  | none =>
      refine iff_of_true rfl fun parameter hparameter hname => ?_
      obtain ⟨item, hitem, rfl⟩ := List.mem_map.mp hparameter
      exact absurd hname (by simpa using List.find?_eq_none.mp hfind item hitem)
  | some item =>
      have hitem := List.mem_map_of_mem (f := fun item : Parameter => (item.name, item.type))
        (List.mem_of_find?_eq_some hfind)
      have hname := List.find?_some hfind
      rw [beq_iff_eq] at hname
      rw [Option.bind_some, Parameters.fault?, Option.map_eq_none_iff, refuses?_eq_none_iff]
      refine ⟨fun htakes parameter hparameter hsame => ?_, fun h => h _ hitem hname⟩
      obtain rfl : parameter = (item.name, item.type) :=
        List.inj_on_of_nodup_map hnodup hparameter hitem (hsame.trans hname.symm)
      exact htakes

-- Fields are taken as they are when they suit the parameters.
theorem ofFields_cases (fields : Keyed Value) :
    Suits (shapeOf parameters) (.object fields) ∧ parameters.ofFields fields = .ok fields ∨
      ¬Suits (shapeOf parameters) (.object fields) ∧
        ∃ fault, parameters.ofFields fields = .error fault := by
  rw [Suits, Parameters.ofFields]
  cases hfield : fields.findSome? parameters.fieldFault? with
  | some fault =>
      obtain ⟨field, hmem, hfault⟩ := List.exists_of_findSome?_eq_some hfield
      refine .inr ⟨fun hsuits => ?_, fault, rfl⟩
      rw [(fieldFault?_eq_none_iff hnodup field).mpr] at hfault
      · cases hfault
      · rintro parameter hparameter hname
        exact (hsuits parameter hparameter).1 field.2 (hname ▸ hmem)
  | none =>
      rw [List.findSome?_eq_none_iff] at hfield
      have hgiven : ∀ parameter ∈ shapeOf parameters, ∀ value, (parameter.1, value) ∈ fields →
          Takes (some value) parameter.2 := fun parameter hparameter value hmem =>
        (fieldFault?_eq_none_iff hnodup _).mp (hfield _ hmem) parameter hparameter rfl
      cases hmissing : parameters.required.find? fun name => !Keyed.contains name fields with
      | some name =>
          refine .inr ⟨fun hsuits => ?_, _, rfl⟩
          have habsent := List.find?_some hmissing
          obtain ⟨item, hitem, rfl⟩ := List.mem_map.mp (List.mem_of_find?_eq_some hmissing)
          obtain ⟨hitem, hrequired⟩ := List.mem_filter.mp hitem
          have htakes := (hsuits _ (List.mem_map_of_mem hitem)).2 (by
            simpa [Keyed.contains] using habsent)
          rw [takes_none_iff, hrequired] at htakes
          cases htakes
      | none =>
          refine .inl ⟨fun parameter hparameter => ⟨hgiven parameter hparameter, ?_⟩, rfl⟩
          intro habsent
          obtain ⟨item, hitem, rfl⟩ := List.mem_map.mp hparameter
          rw [takes_none_iff, ← Bool.not_eq_true]
          intro hrequired
          have hcontains := List.find?_eq_none.mp hmissing item.name
            (List.mem_map_of_mem (List.mem_filter.mpr ⟨hitem, hrequired⟩))
          simp [Keyed.contains, habsent] at hcontains

omit hnodup in
-- Items suit the parameters when there is one for each, and each takes its own.
theorem ofItems_cases (items : List Value) :
    Suits (shapeOf parameters) (.array items) ∧ parameters.ofItems items =
        .ok (Keyed.ofList (((shapeOf parameters).map Prod.fst).zip items)) ∨
      ¬Suits (shapeOf parameters) (.array items) ∧
        ∃ fault, parameters.ofItems items = .error fault := by
  have hnames : (shapeOf parameters).map Prod.fst = parameters.items.map (·.name) :=
    List.map_map
  rw [Suits, shapeOf, List.forall₂_map_left_iff, List.forall₂_iff_zip, ← shapeOf, hnames,
    Parameters.ofItems]
  generalize hfind : List.findSome? _ (parameters.items.zip items) = found
  cases found with
  | some fault =>
      obtain ⟨pair, hmem, hfault⟩ := List.exists_of_findSome?_eq_some hfind
      refine .inr ⟨fun hsuits => ?_, fault, rfl⟩
      have hnone := refuses?_eq_none_iff.mpr (hsuits.2 hmem)
      simp [Parameters.fault?, hnone] at hfault
  | none =>
      rw [List.findSome?_eq_none_iff] at hfind
      have htakes : ∀ {parameter : Parameter} {value : Value},
          (parameter, value) ∈ parameters.items.zip items → Takes (some value) parameter.type :=
        fun hmem => refuses?_eq_none_iff.mp (Option.map_eq_none_iff.mp (hfind _ hmem))
      dsimp only
      split
      · rename_i hshort
        exact .inr ⟨fun hsuits => absurd hsuits.1 (Nat.ne_of_gt hshort), _, rfl⟩
      split
      · rename_i hlong
        exact .inr ⟨fun hsuits => absurd hsuits.1 (Nat.ne_of_lt hlong), _, rfl⟩
      · exact .inl ⟨⟨by omega, htakes⟩, rfl⟩

-- Arguments are read when they suit the parameters, and then hold what is given for each.
theorem arguments_cases (raw : Value) :
    (Suits (shapeOf parameters) raw ∧ ∃ arguments, parameters.arguments raw = .ok arguments ∧
        given (shapeOf parameters) raw = fun name => Keyed.get? name arguments) ∨
      ¬Suits (shapeOf parameters) raw ∧ ∃ fault, parameters.arguments raw = .error fault := by
  cases raw with
  | null =>
      have hempty : Suits (shapeOf parameters) .null ↔ Suits (shapeOf parameters) (.object []) := by
        simp [Suits]
      rw [hempty]
      exact (ofFields_cases hnodup []).imp_left fun ⟨hsuits, hread⟩ => ⟨hsuits, [], hread, rfl⟩
  | object fields =>
      exact (ofFields_cases hnodup fields).imp_left fun ⟨hsuits, hread⟩ =>
        ⟨hsuits, fields, hread, rfl⟩
  | array items =>
      refine (ofItems_cases items).imp_left fun ⟨hsuits, hread⟩ => ⟨hsuits, _, hread, ?_⟩
      funext name
      refine (Keyed.get?_ofList_of_nodup ?_ name).symm
      rw [List.map_fst_zip]
      · exact hnodup
      · rw [List.length_map, hsuits.length_eq]
  | bool | number | string => exact .inr ⟨id, _, rfl⟩

-- What suits the parameters is what they take.
theorem takes_given {raw : Value} (h : Suits (shapeOf parameters) raw)
    {parameter : String × ParameterType} (hparameter : parameter ∈ shapeOf parameters) :
    Takes (given (shapeOf parameters) raw parameter.1) parameter.2 := by
  cases raw with
  | null => exact h parameter hparameter
  | object fields =>
      rw [given]
      cases hget : Keyed.get? parameter.1 fields with
      | none => exact (h parameter hparameter).2 hget
      | some value => exact (h parameter hparameter).1 value (Keyed.mem_of_get?_eq_some hget)
  | array items =>
      rw [given]
      generalize shapeOf parameters = shape at h hnodup hparameter
      change List.Forall₂ _ shape items at h
      induction h with
      | nil => cases hparameter
      | @cons first value shape items hfirst _ ih =>
          rw [List.map_cons, List.nodup_cons] at hnodup
          rw [List.map_cons, List.zip_cons_cons, Keyed.get?]
          obtain rfl | hrest := List.mem_cons.mp hparameter
          · rw [if_pos rfl]
            exact hfirst
          · rw [if_neg fun hsame : first.1 = parameter.1 =>
              hnodup.1 (hsame ▸ List.mem_map_of_mem hrest)]
            exact ih hnodup.2 hrest
  | bool | number | string => exact h.elim

end

section

variable {name : String} {arguments : Arguments}

theorem text?_of_optionally {text? : Option String}
    (h : Optionally .string (Keyed.get? name arguments) text?) : arguments.text? name = text? := by
  rw [Arguments.text?]
  cases text? with
  | some text => rw [show Keyed.get? name arguments = _ from h]; rfl
  | none => rcases h with h | h <;> rw [h] <;> rfl

theorem flag?_of_optionally {flag? : Option Bool}
    (h : Optionally .bool (Keyed.get? name arguments) flag?) : arguments.flag? name = flag? := by
  rw [Arguments.flag?]
  cases flag? with
  | some flag => rw [show Keyed.get? name arguments = _ from h]
  | none => rcases h with h | h <;> rw [h]

theorem text_of_get? {text : String} (h : Keyed.get? name arguments = some (.string text)) :
    arguments.text name = text := by
  rw [Arguments.text, Arguments.text?, h]
  rfl

theorem document_of_get? {value : Value} (h : Keyed.get? name arguments = some value) :
    arguments.document name = value := by
  rw [Arguments.document, h]
  rfl

end

-- A tool does what it is asked for.
theorem task_of_asks {arguments : Arguments} {tool : Tool} {task : Task}
    (h : Asks (fun name => Keyed.get? name arguments) tool.name task) :
    tool.task arguments = .ok task := by
  generalize hname : tool.name = name at h
  cases h with
  | listKnowledgeBases =>
      obtain rfl : tool = .listKnowledgeBases := name_injective hname
      rfl
  | addKnowledgeBase hbase hdescription hsubfolder hrules =>
      obtain rfl : tool = .addKnowledgeBase := name_injective hname
      rw [Tool.task, wish, text_of_get? hbase, text?_of_optionally hdescription,
        text_of_get? hsubfolder, text?_of_optionally hrules]
  | @updateKnowledgeBase name wanted hbase hdescription hsubfolder hrules hchange =>
      obtain rfl : tool = .updateKnowledgeBase := name_injective hname
      have hread : change arguments = wanted := by
        rw [change, text?_of_optionally hdescription, text?_of_optionally hsubfolder,
          text?_of_optionally hrules]
      have hsome : wanted.isEmpty = false := by
        obtain ⟨_ | _, _ | _, _ | _⟩ := wanted <;> first | rfl | exact absurd rfl hchange
      rw [Tool.task, hread, hsome, text_of_get? hbase]
      rfl
  | addFolderConstraint hbase hsubfolder hvalue hrules =>
      obtain rfl : tool = .addFolderConstraint := name_injective hname
      rw [Tool.task, document_of_get? hvalue, hrules, text_of_get? hbase, text_of_get? hsubfolder]
  | listFolderConstraints hbase =>
      obtain rfl : tool = .listFolderConstraints := name_injective hname
      rw [Tool.task, text_of_get? hbase]
  | createNote hbase hpath hcontent =>
      obtain rfl : tool = .createNote := name_injective hname
      rw [Tool.task, text_of_get? hbase, text_of_get? hpath, text_of_get? hcontent]
  | readNote hbase hpath =>
      obtain rfl : tool = .readNote := name_injective hname
      rw [Tool.task, text_of_get? hbase, text_of_get? hpath]
  | updateNote hbase hpath hcontent =>
      obtain rfl : tool = .updateNote := name_injective hname
      rw [Tool.task, text_of_get? hbase, text_of_get? hpath, text_of_get? hcontent]
  | appendNote hbase hpath hcontent =>
      obtain rfl : tool = .appendNote := name_injective hname
      rw [Tool.task, text_of_get? hbase, text_of_get? hpath, text_of_get? hcontent]
  | moveNote hbase hsource htarget =>
      obtain rfl : tool = .moveNote := name_injective hname
      rw [Tool.task, text_of_get? hbase, text_of_get? hsource, text_of_get? htarget]
  | deleteNote hbase hpath =>
      obtain rfl : tool = .deleteNote := name_injective hname
      rw [Tool.task, text_of_get? hbase, text_of_get? hpath]
  | listNotes hbase hfolder hrecursive =>
      obtain rfl : tool = .listNotes := name_injective hname
      rw [Tool.task, text_of_get? hbase, text?_of_optionally hfolder,
        flag?_of_optionally hrecursive]

-- What is given for the parameters of a tool asks for something, unless an update asks for no
-- change or rules are malformed.
theorem exists_asks {arguments : String → Option Value} {tool : Tool}
    (h : ∀ parameter ∈ shapeOf tool.parameters, Takes (arguments parameter.1) parameter.2) :
    (∃ task, Asks arguments tool.name task) ∨
      tool = .updateKnowledgeBase ∧ (∀ part ∈ ["description", "subfolder", "organization_rules"],
        Optionally .string (arguments part) none) ∨
      tool = .addFolderConstraint ∧ ∃ value fault, arguments "rules" = some value ∧
        Rules.checkedOfJson value = .error fault := by
  cases tool with
  | listKnowledgeBases => exact .inl ⟨_, .listKnowledgeBases⟩
  | addKnowledgeBase =>
      obtain ⟨name, hbase⟩ := h ("name", .text) (by decide)
      obtain ⟨description, hdescription⟩ := h ("description", .optionalText) (by decide)
      obtain ⟨subfolder, hsubfolder⟩ := h ("subfolder", .text) (by decide)
      obtain ⟨rules, hrules⟩ := h ("organization_rules", .optionalText) (by decide)
      exact .inl ⟨_, .addKnowledgeBase hbase hdescription hsubfolder hrules⟩
  | updateKnowledgeBase =>
      obtain ⟨name, hbase⟩ := h ("name", .text) (by decide)
      obtain ⟨description, hdescription⟩ := h ("description", .optionalText) (by decide)
      obtain ⟨subfolder, hsubfolder⟩ := h ("subfolder", .optionalText) (by decide)
      obtain ⟨rules, hrules⟩ := h ("organization_rules", .optionalText) (by decide)
      by_cases hchange : KnowledgeBaseChange.mk description subfolder rules = ⟨none, none, none⟩
      · obtain ⟨rfl, rfl, rfl⟩ := KnowledgeBaseChange.mk.inj hchange
        exact .inr (.inl ⟨rfl, by simp [hdescription, hsubfolder, hrules]⟩)
      · exact .inl ⟨_, .updateKnowledgeBase hbase hdescription hsubfolder hrules hchange⟩
  | addFolderConstraint =>
      obtain ⟨name, hbase⟩ := h ("knowledge_base_name", .text) (by decide)
      obtain ⟨subfolder, hsubfolder⟩ := h ("subfolder", .text) (by decide)
      obtain ⟨value, hvalue⟩ := h ("rules", .document) (by decide)
      cases hrules : Rules.checkedOfJson value with
      | ok rules => exact .inl ⟨_, .addFolderConstraint hbase hsubfolder hvalue hrules⟩
      | error fault => exact .inr (.inr ⟨rfl, value, fault, hvalue, hrules⟩)
  | listFolderConstraints =>
      obtain ⟨name, hbase⟩ := h ("knowledge_base_name", .text) (by decide)
      exact .inl ⟨_, .listFolderConstraints hbase⟩
  | createNote =>
      obtain ⟨name, hbase⟩ := h ("knowledge_base_name", .text) (by decide)
      obtain ⟨path, hpath⟩ := h ("path", .text) (by decide)
      obtain ⟨content, hcontent⟩ := h ("content", .text) (by decide)
      exact .inl ⟨_, .createNote hbase hpath hcontent⟩
  | readNote =>
      obtain ⟨name, hbase⟩ := h ("knowledge_base_name", .text) (by decide)
      obtain ⟨path, hpath⟩ := h ("path", .text) (by decide)
      exact .inl ⟨_, .readNote hbase hpath⟩
  | updateNote =>
      obtain ⟨name, hbase⟩ := h ("knowledge_base_name", .text) (by decide)
      obtain ⟨path, hpath⟩ := h ("path", .text) (by decide)
      obtain ⟨content, hcontent⟩ := h ("content", .text) (by decide)
      exact .inl ⟨_, .updateNote hbase hpath hcontent⟩
  | appendNote =>
      obtain ⟨name, hbase⟩ := h ("knowledge_base_name", .text) (by decide)
      obtain ⟨path, hpath⟩ := h ("path", .text) (by decide)
      obtain ⟨content, hcontent⟩ := h ("content", .text) (by decide)
      exact .inl ⟨_, .appendNote hbase hpath hcontent⟩
  | moveNote =>
      obtain ⟨name, hbase⟩ := h ("knowledge_base_name", .text) (by decide)
      obtain ⟨source, hsource⟩ := h ("source_path", .text) (by decide)
      obtain ⟨target, htarget⟩ := h ("destination_path", .text) (by decide)
      exact .inl ⟨_, .moveNote hbase hsource htarget⟩
  | deleteNote =>
      obtain ⟨name, hbase⟩ := h ("knowledge_base_name", .text) (by decide)
      obtain ⟨path, hpath⟩ := h ("path", .text) (by decide)
      exact .inl ⟨_, .deleteNote hbase hpath⟩
  | listNotes =>
      obtain ⟨name, hbase⟩ := h ("knowledge_base_name", .text) (by decide)
      obtain ⟨folder, hfolder⟩ := h ("folder", .optionalText) (by decide)
      obtain ⟨recursive, hrecursive⟩ := h ("recursive", .optionalFlag) (by decide)
      exact .inl ⟨_, .listNotes hbase hfolder hrecursive⟩

variable {raw : Value} {name : String}

theorem taskOf_of_arguments {tool : Tool} {arguments : Arguments}
    (hread : tool.parameters.arguments raw = .ok arguments) :
    taskOf tool.name raw = tool.task arguments := by
  simp only [taskOf, ofName?_name, hread]

-- A name with parameters is that of a tool.
theorem exists_of_shape? {shape : List (String × ParameterType)} (h : shape? name = some shape) :
    ∃ tool : Tool, name = tool.name ∧ shape = shapeOf tool.parameters := by
  cases hname : ofName? name with
  | none =>
      rw [shape?_of_ofName?_none hname] at h
      cases h
  | some tool =>
      obtain rfl := name_of_ofName? hname
      rw [shape?_name] at h
      exact ⟨tool, rfl, (Option.some.inj h).symm⟩

-- A call with arguments that suit its tool is left to the tool.
theorem exists_arguments {shape : List (String × ParameterType)} (hshape : shape? name = some shape)
    (hsuits : Suits shape raw) : ∃ (tool : Tool) (arguments : Arguments), name = tool.name ∧
      taskOf name raw = tool.task arguments ∧
      given shape raw = fun parameter => Keyed.get? parameter arguments := by
  obtain ⟨tool, rfl, rfl⟩ := exists_of_shape? hshape
  obtain ⟨-, arguments, hread, hgiven⟩ | ⟨hunsuited, -⟩ := arguments_cases (nodup_shapeOf tool) raw
  · exact ⟨tool, arguments, rfl, taskOf_of_arguments hread, hgiven⟩
  · exact absurd hsuits hunsuited

theorem taskOf_of_calls {task : Task} (h : Calls raw name task) : taskOf name raw = .ok task := by
  obtain ⟨shape, hshape, hsuits, hasks⟩ := h
  obtain ⟨tool, arguments, rfl, htask, hgiven⟩ := exists_arguments hshape hsuits
  rw [htask]
  rw [hgiven] at hasks
  exact task_of_asks hasks

theorem taskOf_of_refuses {failure : Failure} (h : Refuses raw name failure) :
    taskOf name raw = .error failure := by
  cases h with
  | unknown hname => rw [taskOf, ofName?_of_shape?_none hname]
  | unsuitable hshape hsuits hfault => simp only [taskOf, ofName?_name, hfault]
  | unchanged hshape hsuits hchange =>
      obtain ⟨tool, arguments, hname, htask, hgiven⟩ := exists_arguments hshape hsuits
      obtain rfl : Tool.updateKnowledgeBase = tool := name_injective hname
      rw [hgiven] at hchange
      have hnone : change arguments = ⟨none, none, none⟩ := by
        rw [change, text?_of_optionally (hchange "description" (by decide)),
          text?_of_optionally (hchange "subfolder" (by decide)),
          text?_of_optionally (hchange "organization_rules" (by decide))]
      rw [htask, Tool.task, hnone]
      rfl
  | malformed hshape hsuits hvalue hfault =>
      obtain ⟨tool, arguments, hname, htask, hgiven⟩ := exists_arguments hshape hsuits
      obtain rfl : Tool.addFolderConstraint = tool := name_injective hname
      rw [hgiven] at hvalue
      rw [htask, Tool.task, document_of_get? hvalue, hfault]

-- Every call is refused or asks for a task.
theorem calls_or_refuses (raw : Value) (name : String) :
    (∃ task, Calls raw name task) ∨ ∃ failure, Refuses raw name failure := by
  cases hname : ofName? name with
  | none => exact .inr ⟨_, .unknown (shape?_of_ofName?_none hname)⟩
  | some tool =>
      obtain rfl := name_of_ofName? hname
      have hshape := shape?_name tool
      have hnodup := nodup_shapeOf tool
      obtain ⟨hsuits, -⟩ | ⟨hsuits, fault, hfault⟩ := arguments_cases hnodup raw
      · obtain ⟨task, hasks⟩ | ⟨rfl, hchange⟩ | ⟨rfl, value, fault, hvalue, hfault⟩ :=
          exists_asks fun _ => takes_given hnodup hsuits
        · exact .inl ⟨task, _, hshape, hsuits, hasks⟩
        · exact .inr ⟨_, .unchanged hshape hsuits hchange⟩
        · exact .inr ⟨_, .malformed hshape hsuits hvalue hfault⟩
      · exact .inr ⟨_, .unsuitable hshape hsuits hfault⟩

end Tool

end NoteVault
