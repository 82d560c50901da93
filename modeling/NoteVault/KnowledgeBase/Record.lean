import NoteVault.Failure
import NoteVault.FrontMatter.Note
import NoteVault.Json.Writer
import NoteVault.KnowledgeBase.Basic
import NoteVault.Path.Basic

namespace NoteVault

open Json

-- A value of a header between quotes. Line ends would end the header line and
-- become spaces. Quotes inside need no escape, because a reader takes off only
-- the outer ones.
def headerQuote (text : String) : String :=
  "\"" ++ String.ofList (text.toList.map fun char =>
    if char = '\n' ∨ char = '\r' then ' ' else char) ++ "\""

def headerLine (key value : String) : String :=
  key ++ ": " ++ headerQuote value ++ "\n"

-- A field that a record cannot do without.
def requiredText (owner key : String) (fields : Keyed Value) : Except DocumentFault String :=
  match Keyed.get? key fields with
  | some (.string text) => .ok text
  | _ => .error (.missingField owner key)

-- A field that a record may lack. Values that are no texts are taken as they
-- are written on one line.
def optionalText (key : String) (fields : Keyed Value) : String :=
  match Keyed.get? key fields with
  | some (.string text) => text
  | some .null | none => ""
  | some other => other.compact

namespace KnowledgeBase

-- The record of a knowledge base: a header, and the organization rules below it
-- when there are any.
def record (base : KnowledgeBase) : String :=
  let rules := Text.trimmed base.organizationRules
  "---\n" ++ headerLine "create_time" base.createTime.text ++
    headerLine "description" base.description ++ headerLine "subfolder" base.subfolder ++ "---\n" ++
    if rules.isEmpty then "" else "\n" ++ rules ++ "\n"

def createTimeOf (name : String) (fields : Keyed Value) : Except DocumentFault Time.Instant := do
  match Time.Instant.ofText? (← requiredText name "create_time" fields) with
  | some instant => return instant
  | none => throw (.badCreateTime name)

-- Records edited by hand may write their subfolder in any form.
def subfolderOf (name : String) (fields : Keyed Value) : Except DocumentFault String := do
  let subfolder := Path.normalize (← requiredText name "subfolder" fields)
  if subfolder.isEmpty then throw (.emptySubfolder name) else return subfolder

-- Reads the record of the named knowledge base.
def ofRecord (name text : String) : Except DocumentFault KnowledgeBase := do
  let note := FrontMatter.Note.ofText text
  let createTime ← createTimeOf name note.fields
  let subfolder ← subfolderOf name note.fields
  return ⟨name, createTime, optionalText "description" note.fields, subfolder,
    Text.trimmed note.body⟩

end KnowledgeBase

end NoteVault
