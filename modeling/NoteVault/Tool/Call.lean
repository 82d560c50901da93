import NoteVault.Notes
import NoteVault.Registry.Change
import NoteVault.Tool.Arguments

namespace NoteVault

open Json

-- A list under its name, with its length.
def countedList (name : String) (items : List Value) : Value :=
  .ofFields [("count", .ofNat items.length), (name, .array items)]

namespace Tool

variable {m : Type → Type} [Monad m]

def change (arguments : Arguments) : KnowledgeBaseChange :=
  ⟨arguments.text? "description", arguments.text? "subfolder",
    arguments.text? "organization_rules"⟩

def wish (arguments : Arguments) : NewKnowledgeBase :=
  ⟨arguments.text "name", (arguments.text? "description").getD "", arguments.text "subfolder",
    (arguments.text? "organization_rules").getD ""⟩

-- Does the work of a tool. The arguments suit its parameters.
def perform (registry : Registry m) (arguments : Arguments) : Tool → Work m Value
  | .listKnowledgeBases => do
    return countedList "knowledge_bases" ((← registry.list).map Summary.toJson)
  | .addKnowledgeBase => do
    return .ofFields [("knowledge_base", (← registry.add (wish arguments)).toJson)]
  | .updateKnowledgeBase => do
    if (change arguments).isEmpty then throw (.badInput .emptyUpdate)
    let base ← registry.update (arguments.text "name") (change arguments)
    return .ofFields [("knowledge_base", base.toJson)]
  | .addFolderConstraint => do
    let rules ← orFail .badRules (Rules.checkedOfJson (arguments.document "rules"))
    let constraint ← registry.addConstraint (arguments.text "knowledge_base_name")
      (arguments.text "subfolder") rules
    return .ofFields [("folder_constraint", constraint.toJson)]
  | .listFolderConstraints => do
    let constraints ← registry.constraints (arguments.text "knowledge_base_name")
    return countedList "folder_constraints" (constraints.map Constraint.toJson)
  | .createNote => do
    return (← registry.createNote (arguments.text "knowledge_base_name") (arguments.text "path")
      (arguments.text "content")).toJson
  | .readNote => do
    return (← registry.readNote (arguments.text "knowledge_base_name")
      (arguments.text "path")).toJson
  | .updateNote => do
    return (← registry.updateNote (arguments.text "knowledge_base_name") (arguments.text "path")
      (arguments.text "content")).toJson
  | .appendNote => do
    return (← registry.appendNote (arguments.text "knowledge_base_name") (arguments.text "path")
      (arguments.text "content")).toJson
  | .moveNote => do
    return (← registry.moveNote (arguments.text "knowledge_base_name")
      (arguments.text "source_path") (arguments.text "destination_path")).toJson
  | .deleteNote => do
    let path ← registry.deleteNote (arguments.text "knowledge_base_name") (arguments.text "path")
    return .ofFields [("path", .string path), ("deleted", .bool true)]
  | .listNotes => do
    let notes ← registry.listNotes (arguments.text "knowledge_base_name")
      ((arguments.text? "folder").getD "") ((arguments.flag? "recursive").getD true)
    return countedList "notes" (notes.map .string)

-- Finds the tool, checks the arguments and does the work.
def run (registry : Registry m) (name : String) (arguments : Value) : Work m Value := do
  match ofName? name with
  | none => throw (.badInput (.unknownTool name))
  | some tool =>
    let arguments ← orFail (fun fault => .badInput (.badArguments tool.name fault))
      (tool.parameters.arguments arguments)
    tool.perform registry arguments

end Tool

-- A failure as the answer to a call.
def Failure.toJson (failure : Failure) : Value :=
  .ofFields [("error", .ofFields <|
    [("kind", .string failure.kind), ("message", .string failure.message)] ++
      failure.issues?.toList.map fun issues => ("issues", .array (issues.map Issue.toJson)))]

-- The answer to a call of a tool. Failures are answers too.
def Tool.answer {m : Type → Type} [Monad m] (registry : Registry m) (name : String)
    (arguments : Value) : m Value := do
  match ← (Tool.run registry name arguments).run with
  | .ok result => return result
  | .error failure => return failure.toJson

end NoteVault
