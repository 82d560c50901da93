import NoteVault.Constraint.Basic
import NoteVault.KnowledgeBase.Record
import NoteVault.Rules.Block
import NoteVault.Rules.Layout

namespace NoteVault.Constraint

open Text

-- Three grave accents.
def fence : List Char := ['\x60', '\x60', '\x60']

-- A constraint as a document: the folder in the header, the rules in a fenced
-- block below.
def document (constraint : Constraint) : String :=
  let fence := String.ofList fence
  "---\n" ++ headerLine "subfolder" constraint.subfolder ++ "---\n\n" ++
    fence ++ "yaml\n" ++ constraint.rules.toBlock ++ fence ++ "\n"

-- A fence opens a block whatever follows it on its line.
def opensBlock (line : List Char) : Bool :=
  fence.isPrefixOf (trimStart line)

-- The lines before the one that closes the block, each with a line feed.
def blockBeforeFence : List (List Char) → Option (List Char)
  | [] => none
  | line :: lines =>
    if trim line = fence then some []
    else (blockBeforeFence lines).map fun block => line ++ '\n' :: block

-- The text inside the first fenced block.
def fencedBlock? (body : String) : Option String :=
  match (lines body.toList).dropWhile fun line => !opensBlock line with
  | [] => none
  | _ :: rest => (blockBeforeFence rest).map String.ofList

def blockOf (folder body : String) : Except DocumentFault String :=
  match fencedBlock? body with
  | some block => .ok block
  | none => .error (.noRulesBlock folder)

-- Reads a document of the named knowledge base. Rules on record need not pass
-- the check for new ones, so that a bad pattern does not hide the others.
def ofDocument (knowledgeBase text : String) : Except DocumentFault Constraint := do
  let note := FrontMatter.Note.ofText text
  let subfolder := Path.normalize (← requiredText knowledgeBase "subfolder" note.fields)
  let value ← Rules.readBlock (← blockOf subfolder note.body)
  match Rules.ofJson value with
  | .ok rules => return ⟨knowledgeBase, subfolder, rules⟩
  | .error fault => throw (.badRules subfolder fault)

end NoteVault.Constraint
