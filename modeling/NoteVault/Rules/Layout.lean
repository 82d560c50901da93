import NoteVault.Json.Writer
import NoteVault.Rules.Basic

namespace NoteVault

open Json

-- Rules written as a block of lines. Every text is quoted as in JSON, so that
-- no character of it can be taken for layout.
def indentation (depth : Nat) : String :=
  String.ofList (List.replicate (2 * depth) ' ')

-- A line at the given depth with its line end.
def blockLine (depth : Nat) (text : String) : String :=
  indentation depth ++ text ++ "\n"

-- A line for a part that may be absent.
def optionalLine {α : Type} (depth : Nat) (key : String) (write : α → String) : Option α → String
  | none => ""
  | some part => blockLine depth (key ++ ": " ++ write part)

def writeList (values : List Value) : String :=
  (Value.array values).compact

namespace RequiredField

-- The first line carries the hyphen of the item.
def toBlock (field : RequiredField) : String :=
  blockLine 2 ("- name: " ++ quote field.name) ++
    blockLine 3 ("type: " ++ quote field.type.name) ++
    optionalLine 3 "pattern" quote field.pattern ++
    optionalLine 3 "allowed_values" writeList field.allowedValues

def listToBlock : List RequiredField → String
  | [] => ""
  | field :: fields => field.toBlock ++ listToBlock fields

end RequiredField

-- A group that is present but empty is written as an empty object.
def emptyGroup (key : String) : String :=
  blockLine 0 (key ++ ": \x7b\x7d")

def FrontMatterRules.toBlock (group : FrontMatterRules) : String :=
  match group.requiredFields with
  | none => emptyGroup "frontmatter"
  | some [] => blockLine 0 "frontmatter:" ++ blockLine 1 "required_fields: []"
  | some (field :: fields) =>
    blockLine 0 "frontmatter:" ++ blockLine 1 "required_fields:" ++
      RequiredField.listToBlock (field :: fields)

def FilenameRules.toBlock (group : FilenameRules) : String :=
  match group.pattern with
  | none => emptyGroup "filename"
  | some pattern => blockLine 0 "filename:" ++ blockLine 1 ("pattern: " ++ quote pattern)

def ContentRules.toBlock (group : ContentRules) : String :=
  if group.minLength.isNone && group.maxLength.isNone && group.requiredSections.isNone then
    emptyGroup "content"
  else
    blockLine 0 "content:" ++
      optionalLine 1 "min_length" toString group.minLength ++
      optionalLine 1 "max_length" toString group.maxLength ++
      optionalLine 1 "required_sections" (fun titles => writeList (titles.map .string))
        group.requiredSections

def optionalBlock {α : Type} (write : α → String) : Option α → String
  | none => ""
  | some group => write group

-- Rules without any group are written as the empty text.
def Rules.toBlock (rules : Rules) : String :=
  optionalBlock FrontMatterRules.toBlock rules.frontMatter ++
    optionalBlock FilenameRules.toBlock rules.filename ++
    optionalBlock ContentRules.toBlock rules.content

end NoteVault
