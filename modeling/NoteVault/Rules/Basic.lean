import NoteVault.Json.Value

namespace NoteVault

open Json

-- The types that a required field can ask for. A date is a string that starts
-- with year, month and day.
inductive FieldType where
  | string
  | number
  | boolean
  | date
  | array
deriving DecidableEq, Repr

namespace FieldType

def name : FieldType → String
  | .string => "string"
  | .number => "number"
  | .boolean => "boolean"
  | .date => "date"
  | .array => "array"

def ofName? (name : String) : Option FieldType :=
  if name = "string" then some .string
  else if name = "number" then some .number
  else if name = "boolean" then some .boolean
  else if name = "date" then some .date
  else if name = "array" then some .array
  else none

theorem ofName?_name (type : FieldType) : ofName? type.name = some type := by
  cases type <;> rfl

end FieldType

-- A field that the header of a note must have.
structure RequiredField where
  name : String
  type : FieldType
  pattern : Option String
  allowedValues : Option (List Value)
deriving DecidableEq, Repr

structure FrontMatterRules where
  requiredFields : Option (List RequiredField)
deriving DecidableEq, Repr

structure FilenameRules where
  pattern : Option String
deriving DecidableEq, Repr

-- Lengths count the characters of the body.
structure ContentRules where
  minLength : Option Nat
  maxLength : Option Nat
  requiredSections : Option (List String)
deriving DecidableEq, Repr

-- What a note must satisfy, in three groups that may each be absent. An absent
-- group and an empty one ask for the same but are told apart.
structure Rules where
  frontMatter : Option FrontMatterRules
  filename : Option FilenameRules
  content : Option ContentRules
deriving DecidableEq, Repr

namespace Rules

-- Rules that ask for nothing.
def empty : Rules := ⟨none, none, none⟩

def requiredFields (rules : Rules) : List RequiredField :=
  match rules.frontMatter with
  | some group => group.requiredFields.getD []
  | none => []

def filenamePattern? (rules : Rules) : Option String :=
  rules.filename.bind (·.pattern)

end Rules

end NoteVault
