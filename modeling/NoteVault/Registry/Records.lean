import NoteVault.KnowledgeBase.Record
import NoteVault.Registry.Basic

namespace NoteVault.Registry

variable {m : Type → Type} [Monad m]

-- What is in a folder, where a folder that is missing holds nothing.
def listingOf (storage : Storage m) (folder : String) : Work m Listing := do
  match ← storage.perform (.list folder) with
  | .ok listing => return listing
  | .error (.notFound _) => return .empty
  | .error fault => throw (.storage fault)

-- The knowledge base whose record is in the folder. Records that cannot be read
-- are passed over.
def recordIn? (registry : Registry m) (folder : String) : Work m (Option KnowledgeBase) := do
  match ← registry.storage.perform (.read (Path.below folder recordName)) with
  | .ok text => return (KnowledgeBase.ofRecord (Path.fileName folder) text).toOption
  | .error _ => return none

-- All knowledge bases on record, by name.
def scan (registry : Registry m) : Work m (List KnowledgeBase) := do
  let listing ← listingOf registry.storage registry.root
  let found ← listing.folders.mapM registry.recordIn?
  return (found.filterMap id).mergeSort fun left right => left.name ≤ right.name

-- The knowledge base of that name, if there is one. A name that none can have
-- is that of no knowledge base.
def get (registry : Registry m) (name : String) : Work m (Option KnowledgeBase) := do
  match KnowledgeBase.checkName name with
  | .error _ => return none
  | .ok () =>
    match ← registry.storage.perform (.read (registry.recordPath name)) with
    | .ok text => some <$> orFail .badDocument (KnowledgeBase.ofRecord name text)
    | .error (.notFound _) => return none
    | .error fault => throw (.storage fault)

def require (registry : Registry m) (name : String) : Work m KnowledgeBase := do
  match ← registry.get name with
  | some base => return base
  | none => throw (.knowledgeBaseNotFound name)

end NoteVault.Registry
