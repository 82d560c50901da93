import NoteVault.Json.Value

namespace NoteVault

open Json

-- What a parameter of a tool takes.
inductive ParameterType where
  | text
  | optionalText
  | optionalFlag
  | document
deriving DecidableEq, Repr

structure Parameter where
  name : String
  type : ParameterType
  description : String
deriving DecidableEq, Repr

-- The parameters of a tool, in their order, under the name that messages give.
structure Parameters where
  name : String
  items : List Parameter
deriving DecidableEq, Repr

inductive Tool where
  | listKnowledgeBases
  | addKnowledgeBase
  | updateKnowledgeBase
  | addFolderConstraint
  | listFolderConstraints
  | createNote
  | readNote
  | updateNote
  | appendNote
  | moveNote
  | deleteNote
  | listNotes
deriving DecidableEq, Repr

namespace ParameterType

def isRequired : ParameterType → Bool
  | .text | .document => true
  | .optionalText | .optionalFlag => false

def toJson : ParameterType → List (String × Value)
  | .text => [("type", .string "string")]
  | .optionalText => [("type", .array [.string "string", .string "null"])]
  | .optionalFlag => [("type", .array [.string "boolean", .string "null"])]
  | .document => [("type", .string "object"), ("additionalProperties", .bool true)]

end ParameterType

def Parameter.toJson (parameter : Parameter) : Value :=
  .ofFields (("description", .string parameter.description) :: parameter.type.toJson)

namespace Parameters

def required (parameters : Parameters) : List String :=
  (parameters.items.filter (·.type.isRequired)).map (·.name)

-- The schema of an object of arguments. Required names are sorted.
def schema (parameters : Parameters) : Value :=
  let required := parameters.required.mergeSort fun left right => left ≤ right
  .ofFields <| [("type", .string "object"),
    ("properties", .ofFields (parameters.items.map fun parameter =>
      (parameter.name, parameter.toJson)))] ++
    if required.isEmpty then [] else [("required", .array (required.map .string))]

end Parameters

namespace Tool

def all : List Tool :=
  [.listKnowledgeBases, .addKnowledgeBase, .updateKnowledgeBase, .addFolderConstraint,
    .listFolderConstraints, .createNote, .readNote, .updateNote, .appendNote, .moveNote,
    .deleteNote, .listNotes]

def name : Tool → String
  | .listKnowledgeBases => "list_knowledge_bases"
  | .addKnowledgeBase => "add_knowledge_base"
  | .updateKnowledgeBase => "update_knowledge_base"
  | .addFolderConstraint => "add_folder_constraint"
  | .listFolderConstraints => "list_folder_constraints"
  | .createNote => "create_note"
  | .readNote => "read_note"
  | .updateNote => "update_note"
  | .appendNote => "append_note"
  | .moveNote => "move_note"
  | .deleteNote => "delete_note"
  | .listNotes => "list_notes"

def ofName? (name : String) : Option Tool :=
  all.find? fun tool => tool.name == name

def description : Tool → String
  | .listKnowledgeBases =>
    "List all knowledge bases with their subfolders and a preview of their organization rules."
  | .addKnowledgeBase =>
    "Create a knowledge base owning a vault subfolder. Subfolders of different knowledge bases " ++
    "may not overlap."
  | .updateKnowledgeBase =>
    "Update the description, subfolder or organization rules of a knowledge base."
  | .addFolderConstraint =>
    "Attach machine-checked rules to a folder of a knowledge base. Replaces any existing " ++
    "constraint for that folder."
  | .listFolderConstraints => "List the folder constraints of a knowledge base."
  | .createNote =>
    "Create a note. The content must satisfy the most specific folder constraint covering the path."
  | .readNote => "Read a note and its parsed front matter."
  | .updateNote =>
    "Replace the content of an existing note, validating it against its folder constraint."
  | .appendNote =>
    "Append text to an existing note. The combined note must satisfy its folder constraint."
  | .moveNote =>
    "Move a note within its knowledge base, validating it against the destination folder " ++
    "constraint."
  | .deleteNote => "Delete a note."
  | .listNotes => "List note paths in a knowledge base or one of its folders."

def baseParameter (description : String) : Parameter :=
  ⟨"knowledge_base_name", .text, description⟩

def noteParameter : Parameter :=
  ⟨"path", .text, "Note path, relative to the knowledge base subfolder or already scoped to it"⟩

def writeParameters : Parameters :=
  ⟨"struct NoteWriteParams", [baseParameter "Knowledge base name", noteParameter,
    ⟨"content", .text, "Note text, optionally starting with a front-matter block"⟩]⟩

def pathParameters : Parameters :=
  ⟨"struct NotePathParams", [baseParameter "Knowledge base name", noteParameter]⟩

def addParameters : Parameters :=
  ⟨"struct AddKnowledgeBaseParams", [
    ⟨"name", .text, "Unique knowledge base name, also used as its record directory name"⟩,
    ⟨"description", .optionalText, "Short description of what the knowledge base holds"⟩,
    ⟨"subfolder", .text,
      "Vault folder owned by this knowledge base; must not overlap another knowledge base"⟩,
    ⟨"organization_rules", .optionalText,
      "Free-text guidance on how notes in this knowledge base are organized"⟩]⟩

def updateParameters : Parameters :=
  ⟨"struct UpdateKnowledgeBaseParams", [
    ⟨"name", .text, "Name of the knowledge base to update"⟩,
    ⟨"description", .optionalText, "New description (unchanged when omitted)"⟩,
    ⟨"subfolder", .optionalText, "New subfolder (unchanged when omitted)"⟩,
    ⟨"organization_rules", .optionalText, "New organization rules (unchanged when omitted)"⟩]⟩

def constraintParameters : Parameters :=
  ⟨"struct AddFolderConstraintParams", [baseParameter "Knowledge base the constraint belongs to",
    ⟨"subfolder", .text,
      "Vault folder the constraint governs, inside the knowledge base subfolder"⟩,
    ⟨"rules", .document,
      "Rules object with optional `frontmatter.required_fields`, `filename.pattern` and " ++
      "`content` (`min_length`, `max_length`, `required_sections`)"⟩]⟩

def moveParameters : Parameters :=
  ⟨"struct MoveNoteParams", [baseParameter "Knowledge base name",
    ⟨"source_path", .text, "Current note path"⟩,
    ⟨"destination_path", .text, "New note path; must not exist yet"⟩]⟩

def listParameters : Parameters :=
  ⟨"struct ListNotesParams", [baseParameter "Knowledge base name",
    ⟨"folder", .optionalText, "Folder to list; the whole knowledge base when omitted"⟩,
    ⟨"recursive", .optionalFlag, "Descend into subfolders (default: true)"⟩]⟩

def parameters : Tool → Parameters
  | .listKnowledgeBases => ⟨"struct ListKnowledgeBasesParams", []⟩
  | .addKnowledgeBase => addParameters
  | .updateKnowledgeBase => updateParameters
  | .addFolderConstraint => constraintParameters
  | .listFolderConstraints => ⟨"struct KnowledgeBaseParams", [baseParameter "Knowledge base name"]⟩
  | .createNote | .updateNote | .appendNote => writeParameters
  | .readNote | .deleteNote => pathParameters
  | .moveNote => moveParameters
  | .listNotes => listParameters

def toJson (tool : Tool) : Value :=
  .ofFields [("name", .string tool.name), ("description", .string tool.description),
    ("input_schema", tool.parameters.schema)]

theorem ofName?_name (tool : Tool) : ofName? tool.name = some tool := by
  cases tool <;> decide

end Tool

end NoteVault
