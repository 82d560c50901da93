import NoteVault.Notes
import NoteVault.Registry.Change
import NoteVault.Registry.Listed

namespace NoteVault

-- The operations of a registry, each with the type of its result.
inductive Operation : Type → Type where
  | add (wish : NewKnowledgeBase) : Operation KnowledgeBase
  | update (name : String) (change : KnowledgeBaseChange) : Operation KnowledgeBase
  | list : Operation (List Summary)
  | get (name : String) : Operation (Option KnowledgeBase)
  | addConstraint (name subfolder : String) (rules : Rules) : Operation Constraint
  | constraints (name : String) : Operation (List Constraint)
  | checkNote (name path content : String) : Operation (Option (Constraint × Validation))
  | createNote (name raw content : String) : Operation NoteOutcome
  | readNote (name raw : String) : Operation NoteContent
  | updateNote (name raw content : String) : Operation NoteOutcome
  | appendNote (name raw addition : String) : Operation NoteOutcome
  | moveNote (name rawSource rawTarget : String) : Operation NoteOutcome
  | deleteNote (name raw : String) : Operation String
  | listNotes (name folder : String) (recursive : Bool) : Operation (List String)

def Registry.carryOut {m : Type → Type} [Monad m] (registry : Registry m) :
    {α : Type} → Operation α → Work m α
  | _, .add wish => registry.add wish
  | _, .update name change => registry.update name change
  | _, .list => registry.list
  | _, .get name => registry.get name
  | _, .addConstraint name subfolder rules => registry.addConstraint name subfolder rules
  | _, .constraints name => registry.constraints name
  | _, .checkNote name path content => registry.checkNote name path content
  | _, .createNote name raw content => registry.createNote name raw content
  | _, .readNote name raw => registry.readNote name raw
  | _, .updateNote name raw content => registry.updateNote name raw content
  | _, .appendNote name raw addition => registry.appendNote name raw addition
  | _, .moveNote name rawSource rawTarget => registry.moveNote name rawSource rawTarget
  | _, .deleteNote name raw => registry.deleteNote name raw
  | _, .listNotes name folder recursive => registry.listNotes name folder recursive

-- An operation to be carried out, of any type of result.
abbrev Order := Σ α : Type, Operation α

-- Orders one after the other, whatever becomes of each.
def Registry.carryOutAll {m : Type → Type} [Monad m] (registry : Registry m) :
    List Order → m Unit
  | [] => return
  | order :: orders => do
    let _ ← (registry.carryOut order.2).run
    registry.carryOutAll orders

namespace Operation

variable {α : Type}

-- The knowledge base that an operation is for. The first and the third are for
-- all of them.
def target? : Operation α → Option String
  | .add _ | .list => none
  | .update name _ | .get name | .addConstraint name .. | .constraints name | .checkNote name ..
  | .createNote name .. | .readNote name _ | .updateNote name .. | .appendNote name ..
  | .moveNote name .. | .deleteNote name _ | .listNotes name .. => some name

end Operation

-- The knowledge base with the changes to its texts.
def KnowledgeBaseChange.applied (change : KnowledgeBaseChange) (base : KnowledgeBase) :
    KnowledgeBase :=
  { base with
    description := change.description.getD base.description
    organizationRules := (change.organizationRules.map Text.trimmed).getD base.organizationRules }

namespace Registry

variable {m : Type → Type} [Monad m] (registry : Registry m)

def settle (base : KnowledgeBase) : Option String → Work m KnowledgeBase
  | some raw => registry.moveTo base raw
  | none => return base

-- Puts a changed knowledge base on record and on the list.
def commit (name : String) (base : KnowledgeBase) : Work m KnowledgeBase := do
  registry.storage.ask (.write (registry.recordPath name) base.record .overwrite)
  registry.refreshIndex base.summary refreshAttempts
  return base

-- Makes what belongs to a new knowledge base besides its record.
def furnish (base : KnowledgeBase) : Work m KnowledgeBase := do
  registry.storage.ask (.createFolder (registry.constraintFolder base.name))
  registry.storage.ask (.createFolder base.subfolder)
  registry.refreshIndex base.summary refreshAttempts
  return base

-- An update in three stages: it reads, it makes room, and it records.
theorem update_eq [LawfulMonad m] (name : String) (change : KnowledgeBaseChange) :
    registry.update name change = (do
      let base ← registry.require name
      let base ← registry.settle (change.applied base) change.subfolder
      registry.commit name base) := by
  unfold update
  congr
  funext base
  cases hs : change.subfolder with
  | some raw => rfl
  | none =>
      simp only [settle, pure_bind]
      rfl

end Registry

end NoteVault
