import NoteVault.Rules.Basic

namespace NoteVault

open Json

-- One way in which a note breaks a rule.
inductive Issue where
  | missingField (field : String) (type : FieldType)
  | wrongType (field : String) (type : FieldType) (actual : String)
  | fieldMismatch (field pattern actual : String)
  | valueNotAllowed (field : String) (allowed : List Value) (actual : Value)
  | filenameMismatch (filename pattern : String)
  | tooShort (length least : Nat)
  | tooLong (length most : Nat)
  | missingSection (title : String)
deriving DecidableEq, Repr

namespace Issue

def kind : Issue → String
  | .missingField .. => "missing_required_field"
  | .wrongType .. => "invalid_field_type"
  | .fieldMismatch .. => "pattern_mismatch"
  | .valueNotAllowed .. => "invalid_value"
  | .filenameMismatch .. => "pattern_mismatch"
  | .tooShort .. => "content_too_short"
  | .tooLong .. => "content_too_long"
  | .missingSection .. => "missing_section"

-- The dotted name of the part of the note that breaks the rule.
def place : Issue → String
  | .missingField field _ => "frontmatter." ++ field
  | .wrongType field _ _ => "frontmatter." ++ field
  | .fieldMismatch field _ _ => "frontmatter." ++ field
  | .valueNotAllowed field _ _ => "frontmatter." ++ field
  | .filenameMismatch .. => "filename"
  | .tooShort .. => "content"
  | .tooLong .. => "content"
  | .missingSection .. => "content.sections"

def expected? : Issue → Option Value
  | .missingField _ type => some (.string type.name)
  | .wrongType _ type _ => some (.string type.name)
  | .fieldMismatch .. => none
  | .valueNotAllowed _ allowed _ => some (.array allowed)
  | .filenameMismatch .. => none
  | .tooShort _ least => some (.ofNat least)
  | .tooLong _ most => some (.ofNat most)
  | .missingSection title => some (.string title)

def actual? : Issue → Option Value
  | .missingField .. => none
  | .wrongType _ _ actual => some (.string actual)
  | .fieldMismatch _ _ actual => some (.string actual)
  | .valueNotAllowed _ _ actual => some actual
  | .filenameMismatch filename _ => some (.string filename)
  | .tooShort length _ => some (.ofNat length)
  | .tooLong length _ => some (.ofNat length)
  | .missingSection _ => none

def pattern? : Issue → Option String
  | .fieldMismatch _ pattern _ => some pattern
  | .filenameMismatch _ pattern => some pattern
  | _ => none

def message : Issue → String
  | .missingField field _ => s!"Required field '{field}' is missing"
  | .wrongType field type actual => s!"Field '{field}' should be {type.name} but is {actual}"
  | .fieldMismatch field pattern _ => s!"Field '{field}' does not match pattern {pattern}"
  | .valueNotAllowed field _ _ => s!"Field '{field}' must be one of the allowed values"
  | .filenameMismatch filename pattern =>
    s!"Filename '{filename}' does not match pattern {pattern}"
  | .tooShort length least => s!"Content is {length} characters, minimum is {least}"
  | .tooLong length most => s!"Content is {length} characters, maximum is {most}"
  | .missingSection title => s!"Missing required section '{title}'"

def toJson (issue : Issue) : Value :=
  let optional (key : String) (value : Option Value) : List (String × Value) :=
    value.toList.map fun value => (key, value)
  .ofFields <| [("field", .string issue.place), ("error", .string issue.kind)] ++
    optional "expected" issue.expected? ++ optional "actual" issue.actual? ++
    optional "pattern" (issue.pattern?.map .string) ++ [("message", .string issue.message)]

end Issue

end NoteVault
