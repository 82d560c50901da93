import NoteVault.Registry.Records

namespace NoteVault.Registry

variable {m : Type → Type} [Monad m]

-- The entries of the index, if it can be read. No work with the index fails: an
-- index that causes trouble is done without.
def loadIndex (registry : Registry m) : m (Option (List Summary)) := do
  match ← registry.storage.perform (.read registry.indexPath) with
  | .ok text => return (Index.ofDocument? text).map Index.entries
  | .error _ => return none

-- Removes the index, so that the next list is made from the records. Without an
-- index there is nothing to remove, and a failure changes nothing.
def dropIndex (registry : Registry m) : m Unit := do
  let _ ← registry.storage.perform (.delete registry.indexPath)

-- Writes the index. An index that cannot be written is removed.
def saveIndex (registry : Registry m) (entries : List Summary) : m Unit := do
  let index : Index := ⟨← registry.now, entries⟩
  match ← registry.storage.perform (.write registry.indexPath index.document .overwrite) with
  | .ok () => return
  | .error _ => registry.dropIndex

-- The entries that a change starts from: those of the index, or those of the
-- records when the index has none. Nothing is known when both cannot be read.
def knownEntries (registry : Registry m) : m (Option (List Summary)) := do
  match ← registry.loadIndex with
  | some (entry :: entries) => return some (entry :: entries)
  | _ =>
    match ← registry.scan.run with
    | .ok bases => return some (bases.map KnowledgeBase.summary)
    | .error _ => return none

-- Whether the entry is in the index as it stands.
def isListed (registry : Registry m) (entry : Summary) : m Bool := do
  return ((← registry.loadIndex).getD []).contains entry

-- Puts an entry into the index. Another writer may undo that, so it is tried so
-- many times, and then the index is removed.
def refreshIndex (registry : Registry m) (entry : Summary) : Nat → m Unit
  | 0 => registry.dropIndex
  | attempts + 1 => do
    match ← registry.knownEntries with
    | none => registry.dropIndex
    | some entries =>
      registry.saveIndex (putEntry entry entries)
      if ← registry.isListed entry then return
      registry.refreshIndex entry attempts

def refreshAttempts : Nat := 2

-- Summaries of all knowledge bases, from the index when it has any. A list made
-- from the records becomes the index.
def list (registry : Registry m) : Work m (List Summary) := do
  match ← registry.loadIndex with
  | some (entry :: entries) => return entry :: entries
  | _ =>
    let summaries := (← registry.scan).map KnowledgeBase.summary
    if !summaries.isEmpty then registry.saveIndex summaries
    return summaries

end NoteVault.Registry
