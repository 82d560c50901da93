import NoteVault.Json.Reader
import NoteVault.Json.Writer
import NoteVault.KnowledgeBase.Basic

namespace NoteVault

open Json

-- A stored list of all knowledge bases that spares a look at their records. It
-- only repeats what the records say.
structure Index where
  updated : Time.Instant
  entries : List Summary
deriving DecidableEq, Repr

namespace Index

-- The one version of the document. Documents of another version are not read.
def version : Nat := 1

def document (index : Index) : String :=
  (Value.object [("version", .ofNat version), ("updated_at", .string index.updated.text),
    ("knowledge_bases", .array (index.entries.map fun entry => .object entry.fields))]).pretty

-- The parts of a record by their keys. Written as an array, the parts stand in
-- the order of the keys and those at the end may be left out; written as an
-- object, no key may be repeated, and keys that are not asked for do not matter.
def partsOf? (keys : List String) : Value → Option (List (Option Value))
  | .array items =>
    if keys.length < items.length then none
    else some (items.map some ++ List.replicate (keys.length - items.length) none)
  | .object fields =>
    keys.mapM fun key =>
      match fields.filter fun field => field.1 == key with
      | [] => some none
      | [field] => some (some field.2)
      | _ => none
  | _ => none

def instant? (value : Value) : Option Time.Instant :=
  value.string?.bind Time.Instant.ofLooseText?

-- The preview alone may be missing.
def preview? : Option Value → Option String
  | some value => value.string?
  | none => some ""

def summaryKeys : List String :=
  ["name", "description", "subfolder", "create_time", "organization_rules_preview"]

def summary? (value : Value) : Option Summary := do
  let [some name, some description, some subfolder, some createTime, rules] ←
    partsOf? summaryKeys value | none
  return ⟨← name.string?, ← description.string?, ← subfolder.string?, ← instant? createTime,
    ← preview? rules⟩

def summaries? : Value → Option (List Summary)
  | .array items => items.mapM summary?
  | _ => none

def keys : List String :=
  ["version", "updated_at", "knowledge_bases"]

-- Any defect makes the whole document useless.
def ofDocument? (text : String) : Option Index := do
  let document ← readWritten text
  let [some number, some updated, some entries] ← partsOf? keys document | none
  if number ≠ .ofNat version then none
  return ⟨← instant? updated, ← summaries? entries⟩

end Index

def sortByName (summaries : List Summary) : List Summary :=
  summaries.mergeSort fun left right => left.name ≤ right.name

-- Puts an entry in the place of the first of its name, or else at the end.
def replaceEntry (entry : Summary) : List Summary → List Summary
  | [] => [entry]
  | other :: rest =>
    if other.name = entry.name then entry :: rest else other :: replaceEntry entry rest

-- The list with the entry, sorted by name.
def putEntry (entry : Summary) (entries : List Summary) : List Summary :=
  sortByName (replaceEntry entry entries)

end NoteVault
