import NoteVault.Registry.Constraints
import NoteVault.Registry.Listed

namespace NoteVault

-- A wish for a new knowledge base.
structure NewKnowledgeBase where
  name : String
  description : String
  subfolder : String
  organizationRules : String
deriving DecidableEq, Repr

-- Changes to a knowledge base. Absent parts stay as they are.
structure KnowledgeBaseChange where
  description : Option String
  subfolder : Option String
  organizationRules : Option String
deriving DecidableEq, Repr

def KnowledgeBaseChange.isEmpty (change : KnowledgeBaseChange) : Bool :=
  change.description.isNone && change.subfolder.isNone && change.organizationRules.isNone

namespace Registry

variable {m : Type → Type}

-- A subfolder belongs to one knowledge base alone, and not to the records.
def checkExclusive (registry : Registry m) (name folder : String) (bases : List KnowledgeBase) :
    Except Failure Unit :=
  if Path.overlap folder registry.root then .error (.badPath (.reserved folder registry.root))
  else
    match bases.find? fun base => base.name != name && Path.overlap folder base.subfolder with
    | some other => .error (.subfolderOverlap folder other.name other.subfolder)
    | none => .ok ()

variable [Monad m]

-- Writes the record of a new knowledge base, which must not have one.
def createRecord (registry : Registry m) (base : KnowledgeBase) : Work m Unit := do
  match ← registry.storage.perform (.write (registry.recordPath base.name) base.record .create) with
  | .ok () => return
  | .error (.alreadyExists _) => throw (.knowledgeBaseExists base.name)
  | .error fault => throw (.storage fault)

def add (registry : Registry m) (wish : NewKnowledgeBase) : Work m KnowledgeBase := do
  orFail .badInput (KnowledgeBase.checkName wish.name)
  let folder ← orFail .badPath (Path.folder wish.subfolder)
  if ← registry.storage.ask (.isPresent (registry.recordPath wish.name)) then
    throw (.knowledgeBaseExists wish.name)
  orFail id (registry.checkExclusive wish.name folder (← registry.scan))
  let base : KnowledgeBase :=
    ⟨wish.name, ← registry.now, wish.description, folder, Text.trimmed wish.organizationRules⟩
  registry.createRecord base
  registry.storage.ask (.createFolder (registry.constraintFolder base.name))
  registry.storage.ask (.createFolder base.subfolder)
  registry.refreshIndex base.summary refreshAttempts
  return base

-- Gives the knowledge base another subfolder. Notes stay where they are, and so
-- do constraints, even those that no longer lie in the subfolder.
def moveTo (registry : Registry m) (base : KnowledgeBase) (raw : String) :
    Work m KnowledgeBase := do
  let folder ← orFail .badPath (Path.folder raw)
  if folder = base.subfolder then return base
  orFail id (registry.checkExclusive base.name folder (← registry.scan))
  let _ ← registry.constraints base.name
  registry.storage.ask (.createFolder folder)
  return { base with subfolder := folder }

def update (registry : Registry m) (name : String) (change : KnowledgeBaseChange) :
    Work m KnowledgeBase := do
  let base ← registry.require name
  let base := { base with
    description := change.description.getD base.description
    organizationRules := (change.organizationRules.map Text.trimmed).getD base.organizationRules }
  let base ← match change.subfolder with
    | some raw => registry.moveTo base raw
    | none => pure base
  registry.storage.ask (.write (registry.recordPath name) base.record .overwrite)
  registry.refreshIndex base.summary refreshAttempts
  return base

end Registry

end NoteVault
