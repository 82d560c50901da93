import NoteVault.Tool.ArgumentFault
import NoteVault.Tool.Catalogue

namespace NoteVault

open Json

-- Arguments that suit the parameters of a tool, by their names.
abbrev Arguments := Keyed Value

-- What a parameter would take, when it does not take the value.
def ParameterType.refuses? : ParameterType → Value → Option String
  | .text, .string _ | .document, _ => none
  | .optionalText, .null | .optionalText, .string _ => none
  | .optionalFlag, .null | .optionalFlag, .bool _ => none
  | .text, _ | .optionalText, _ => some "a string"
  | .optionalFlag, _ => some "a boolean"

namespace Parameters

def count (parameters : Parameters) : String :=
  if parameters.items.length = 1 then "1 element" else s!"{parameters.items.length} elements"

def fault? (parameter : Parameter) (value : Value) : Option ArgumentFault :=
  (parameter.type.refuses? value).map (.wrongType value)

-- The fault of a field. Fields that are no parameters do not matter.
def fieldFault? (parameters : Parameters) (field : String × Value) : Option ArgumentFault :=
  (parameters.items.find? fun parameter => parameter.name == field.1).bind (fault? · field.2)

-- Arguments by name. Wrong ones are noticed in the order of their names, and
-- after them those that are missing, in the order of the parameters.
def ofFields (parameters : Parameters) (fields : Keyed Value) : Except ArgumentFault Arguments :=
  match fields.findSome? parameters.fieldFault? with
  | some fault => .error fault
  | none =>
    match parameters.required.find? fun name => !Keyed.contains name fields with
    | some name => .error (.missing name)
    | none => .ok fields

-- Arguments by position, of which none may be left out.
def ofItems (parameters : Parameters) (items : List Value) : Except ArgumentFault Arguments :=
  match (parameters.items.zip items).findSome? fun (parameter, value) => fault? parameter value with
  | some fault => .error fault
  | none =>
    if items.length < parameters.items.length then
      .error (.wrongLength items.length (parameters.name ++ " with " ++ parameters.count))
    else if parameters.items.length < items.length then
      .error (.wrongLength items.length "fewer elements in array")
    else .ok (Keyed.ofList ((parameters.items.map (·.name)).zip items))

-- No arguments at all are arguments without fields.
def arguments (parameters : Parameters) : Value → Except ArgumentFault Arguments
  | .null => parameters.ofFields []
  | .object fields => parameters.ofFields fields
  | .array items => parameters.ofItems items
  | other => .error (.wrongType other parameters.name)

end Parameters

namespace Arguments

def text? (name : String) (arguments : Arguments) : Option String :=
  (Keyed.get? name arguments).bind Value.string?

-- A text that the parameters require.
def text (name : String) (arguments : Arguments) : String :=
  (text? name arguments).getD ""

def flag? (name : String) (arguments : Arguments) : Option Bool :=
  match Keyed.get? name arguments with
  | some (.bool flag) => some flag
  | _ => none

def document (name : String) (arguments : Arguments) : Value :=
  (Keyed.get? name arguments).getD .null

end Arguments

end NoteVault
