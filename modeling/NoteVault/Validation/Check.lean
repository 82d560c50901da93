import NoteVault.FrontMatter.Note
import NoteVault.Path.Basic
import NoteVault.Pattern.Search
import NoteVault.Text.Basic
import NoteVault.Validation.Issue
import NoteVault.Validation.Section

namespace NoteVault

open Json

-- The issues of a note. A note passes when there are none.
structure Validation where
  issues : List Issue
deriving DecidableEq, Repr

namespace Validation

def passed (validation : Validation) : Bool :=
  validation.issues.isEmpty

def toJson (validation : Validation) : Value :=
  .ofFields [("passed", .bool validation.passed),
    ("issues", .array (validation.issues.map Issue.toJson))]

-- A text that starts with four, two and two digits between hyphens.
def startsWithDate (text : String) : Bool :=
  match text.toList with
  | y₁ :: y₂ :: y₃ :: y₄ :: '-' :: m₁ :: m₂ :: '-' :: d₁ :: d₂ :: _ =>
    [y₁, y₂, y₃, y₄, m₁, m₂, d₁, d₂].all Text.isDigit
  | _ => false

def hasType : FieldType → Value → Bool
  | .string, .string _ => true
  | .number, .number _ => true
  | .boolean, .bool _ => true
  | .date, .string text => startsWithDate text
  | .array, .array _ => true
  | _, _ => false

-- Numbers are equal when their doubles are, so that 1 is an allowed 1.0.
def sameScalar : Value → Value → Bool
  | .number left, .number right => left.toBinary64.sameValue right.toBinary64
  | left, right => left.same right

-- Whether a text breaks a pattern. One that does not compile is never broken.
def breaks (pattern text : String) : Bool :=
  match Pattern.compile? pattern with
  | some compiled => !compiled.isMatch text
  | none => false

def patternIssues (field : RequiredField) (value : Value) : List Issue :=
  match field.pattern, value with
  | some pattern, .string text =>
    if breaks pattern text then [.fieldMismatch field.name pattern text] else []
  | _, _ => []

-- An empty list of allowed values allows all.
def allowedIssues (field : RequiredField) (value : Value) : List Issue :=
  let allowed := field.allowedValues.getD []
  if allowed.isEmpty || allowed.any (sameScalar · value) then []
  else [.valueNotAllowed field.name allowed value]

-- A null counts as missing. A value of another type is not looked at further.
def fieldIssues (note : FrontMatter.Note) (field : RequiredField) : List Issue :=
  match Keyed.get? field.name note.fields with
  | none | some .null => [.missingField field.name field.type]
  | some value =>
    if !hasType field.type value then [.wrongType field.name field.type value.typeName]
    else patternIssues field value ++ allowedIssues field value

def filenameIssues (rules : Rules) (path : String) : List Issue :=
  match rules.filenamePattern? with
  | some pattern =>
    if breaks pattern (Path.fileName path) then [.filenameMismatch (Path.fileName path) pattern]
    else []
  | none => []

def lengthIssues (rules : ContentRules) (length : Nat) : List Issue :=
  (rules.minLength.toList.filter (length < ·)).map (.tooShort length) ++
    (rules.maxLength.toList.filter (· < length)).map (.tooLong length)

def sectionIssues (rules : ContentRules) (body : String) : List Issue :=
  ((rules.requiredSections.getD []).filter fun title => !hasSection body title).map .missingSection

def contentIssues (rules : Rules) (body : String) : List Issue :=
  match rules.content with
  | some group => lengthIssues group body.length ++ sectionIssues group body
  | none => []

-- Checks a note that is to stand at the path. All rules are checked, each on
-- its own: fields in their order, the file name, the lengths and the sections.
def ofNote (rules : Rules) (path content : String) : Validation :=
  let note := FrontMatter.Note.ofText content
  ⟨rules.requiredFields.flatMap (fieldIssues note) ++ filenameIssues rules path ++
    contentIssues rules note.body⟩

theorem ofNote_empty (path content : String) : ofNote .empty path content = ⟨[]⟩ := rfl

end Validation

end NoteVault
