import NoteVault.FrontMatter.Scalar

namespace NoteVault.FrontMatter

open Json Text

-- A document in two parts. Without a header the body is the whole text.
structure Note where
  fields : Keyed Value
  body : String
  raw : String
deriving DecidableEq, Repr

-- The line that opens and closes a header.
def delimiter : List Char := ['-', '-', '-']

-- The lines before the first closing delimiter, without their line ends, and
-- the pieces of text after it.
def splitAtDelimiter : List (List Char) → Option (List (List Char) × List (List Char))
  | [] => none
  | piece :: rest =>
    if withoutLineEnd piece = delimiter then some ([], rest)
    else
      match splitAtDelimiter rest with
      | none => none
      | some (lines, after) => some (withoutLineEnd piece :: lines, after)

-- The header lines and the body of a text that starts with a header.
def splitHeader (chars : List Char) : Option (List (List Char) × List Char) :=
  match pieces chars with
  | [] => none
  | first :: rest =>
    if withoutLineEnd first = delimiter then
      match splitAtDelimiter rest with
      | none => none
      | some (lines, after) => some (lines, after.flatten)
    else none

-- What a trimmed header line says.
inductive HeaderLine where
  | ignored
  | item (text : List Char)
  | entry (key value : List Char)
  | other
deriving DecidableEq, Repr

def listItem? : List Char → Option (List Char)
  | ['-'] => some []
  | '-' :: ' ' :: rest => some (trim rest)
  | _ => none

-- Blank lines and lines that start with # say nothing. A hyphen alone or before
-- a blank marks an item. All before the first colon is a key unless it is blank.
def HeaderLine.ofChars (line : List Char) : HeaderLine :=
  let text := trim line
  if text.isEmpty || text.head? == some '#' then .ignored
  else
    match listItem? text with
    | some rest => .item rest
    | none =>
      match splitAtFirst ':' text with
      | none => .other
      | some (key, value) =>
        if (trim key).isEmpty then .other else .entry (trim key) (trim value)

-- The entries so far and the key whose list the next items extend.
structure Progress where
  fields : Keyed Value
  openKey : Option String
deriving DecidableEq, Repr

def extendList (item : Value) : Option Value → Value
  | some (.array items) => .array (items ++ [item])
  | _ => .array [item]

-- An entry without a value, or with the empty list, opens its key for items.
-- Any other entry or line closes the open key.
def Progress.step (progress : Progress) (line : List Char) : Progress :=
  match HeaderLine.ofChars line with
  | .ignored => progress
  | .item text =>
    match progress.openKey with
    | none => progress
    | some key =>
      { progress with
        fields := progress.fields.insert key
          (extendList (coerce text) (progress.fields.get? key)) }
  | .other => { progress with openKey := none }
  | .entry key value =>
    let key := String.ofList key
    if value.isEmpty then ⟨progress.fields.insert key .null, some key⟩
    else if value = ['[', ']'] then ⟨progress.fields.insert key (.array []), some key⟩
    else ⟨progress.fields.insert key (coerce value), none⟩

-- The fields that header lines define. The last entry of a key counts.
def readFields (lines : List (List Char)) : Keyed Value :=
  (lines.foldl Progress.step ⟨[], none⟩).fields

-- Reading never fails: a text without a complete header is all body.
def Note.ofText (text : String) : Note :=
  match splitHeader text.toList with
  | some (lines, body) => ⟨readFields lines, String.ofList body, text⟩
  | none => ⟨[], text, text⟩

theorem raw_ofText (text : String) : (Note.ofText text).raw = text := by
  unfold Note.ofText
  split <;> rfl

end NoteVault.FrontMatter
