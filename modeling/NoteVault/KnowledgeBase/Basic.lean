import NoteVault.Failure
import NoteVault.Json.Value
import NoteVault.Text.Basic
import NoteVault.Time.Rfc3339

namespace NoteVault

open Json

-- A named collection of notes with a subfolder of its own. The organization
-- rules are advice in plain text; nothing checks them.
structure KnowledgeBase where
  name : String
  createTime : Time.Instant
  description : String
  subfolder : String
  organizationRules : String
deriving DecidableEq, Repr

-- What a list of knowledge bases shows of each.
structure Summary where
  name : String
  description : String
  subfolder : String
  createTime : Time.Instant
  rulesPreview : String
deriving DecidableEq, Repr

-- The first characters of a text, with three points when some are left out.
def preview (text : String) (most : Nat) : String :=
  let chars := text.toList
  if most < chars.length then String.ofList (chars.take most) ++ "..." else text

-- The characters of the organization rules that a summary keeps.
def previewLength : Nat := 200

def KnowledgeBase.summary (base : KnowledgeBase) : Summary where
  name := base.name
  description := base.description
  subfolder := base.subfolder
  createTime := base.createTime
  rulesPreview := preview base.organizationRules previewLength

def KnowledgeBase.toJson (base : KnowledgeBase) : Value :=
  .ofFields [("name", .string base.name), ("create_time", .string base.createTime.text),
    ("description", .string base.description), ("subfolder", .string base.subfolder),
    ("organization_rules", .string base.organizationRules)]

-- The fields in the order of a written list.
def Summary.fields (summary : Summary) : List (String × Value) :=
  [("name", .string summary.name), ("description", .string summary.description),
    ("subfolder", .string summary.subfolder), ("create_time", .string summary.createTime.text),
    ("organization_rules_preview", .string summary.rulesPreview)]

def Summary.toJson (summary : Summary) : Value :=
  .ofFields summary.fields

namespace KnowledgeBase

-- The list of all knowledge bases is kept under this name, beside the records.
def listName : String := "kb_cache.json"

-- Whether two dots stand beside each other.
def hasTwoDots : List Char → Bool
  | '.' :: '.' :: _ => true
  | _ :: chars => hasTwoDots chars
  | [] => false

-- A name is that of a folder of records, and must stay inside its parent.
def leavesFolder (name : List Char) : Bool :=
  name.head? == some '.' || name.contains '/' || name.contains '\\' || hasTwoDots name

def checkName (name : String) : Except InputFault Unit :=
  if Text.isAllBlank name then .error .blankName
  else if leavesFolder name.toList then .error (.badName name)
  else if name = listName then .error (.reservedName name)
  else .ok ()

end KnowledgeBase

end NoteVault
