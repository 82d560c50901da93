import NoteVault.KnowledgeBase.Basic
import NoteVault.Path.Scope
import NoteVault.Registry.Index
import NoteVault.Storage.Call

namespace NoteVault

-- The knowledge bases of a vault. Their records are kept below the root, a
-- folder of the vault in normal form.
structure Registry (m : Type → Type) where
  storage : Storage m
  now : m Time.Instant
  root : String

namespace Registry

variable {m : Type → Type}

-- The folder that holds the records when no other is set.
def defaultRoot : String := ".knowledge-bases"

def ofRoot (storage : Storage m) (now : m Time.Instant) (root : String) : Registry m :=
  ⟨storage, now, Path.normalize root⟩

def folder (registry : Registry m) (name : String) : String :=
  Path.below registry.root name

def recordName : String := "meta.md"

def recordPath (registry : Registry m) (name : String) : String :=
  Path.below (registry.folder name) recordName

def constraintFolder (registry : Registry m) (name : String) : String :=
  Path.below (registry.folder name) "folder_constraints"

-- The document of a constraint is named for its subfolder. Subfolders with the
-- same plain name share one document.
def constraintPath (registry : Registry m) (name subfolder : String) : String :=
  Path.below (registry.constraintFolder name) (Path.plainName subfolder ++ Path.noteExtension)

def indexPath (registry : Registry m) : String :=
  Path.below registry.root KnowledgeBase.listName

end Registry

-- Turns a refusal of one kind of work into its failure.
def orFail {α ε : Type} {m : Type → Type} [Monad m] (failure : ε → Failure) :
    Except ε α → Work m α
  | .ok value => return value
  | .error fault => throw (failure fault)

end NoteVault
