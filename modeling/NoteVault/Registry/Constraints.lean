import NoteVault.Constraint.Basic
import NoteVault.Constraint.Document
import NoteVault.Registry.Records
import NoteVault.Rules.Check
import NoteVault.Validation.Check

namespace NoteVault.Registry

variable {m : Type → Type} [Monad m]

-- Puts the rules for a folder of the knowledge base on record, in place of
-- older ones.
def addConstraint (registry : Registry m) (name subfolder : String) (rules : Rules) :
    Work m Constraint := do
  let base ← registry.require name
  let folder ← orFail .badPath (Path.folder subfolder)
  if !Path.isWithin folder base.subfolder then
    throw (.badPath (.folderOutside folder name base.subfolder))
  orFail .badRules rules.check
  let constraint : Constraint := ⟨name, folder, rules⟩
  registry.storage.ask (.write (registry.constraintPath name folder) constraint.document .overwrite)
  return constraint

-- The constraint in a document. Documents that cannot be read are passed over.
def constraintAt? (registry : Registry m) (name path : String) : Work m (Option Constraint) := do
  match ← registry.storage.perform (.read path) with
  | .ok text => return (Constraint.ofDocument name text).toOption
  | .error _ => return none

-- All constraints of the knowledge base, in the order of their documents.
def constraints (registry : Registry m) (name : String) : Work m (List Constraint) := do
  let _ ← registry.require name
  let listing ← listingOf registry.storage (registry.constraintFolder name)
  let found ← (listing.files.filter Path.isNote).mapM (registry.constraintAt? name)
  return found.filterMap id

-- The constraint that a note at the path has to satisfy.
def applicable? (registry : Registry m) (name path : String) : Work m (Option Constraint) := do
  return Constraint.applicable? path (← registry.constraints name)

-- Checks a note against its constraint. Without one there is nothing to check.
def checkNote (registry : Registry m) (name path content : String) :
    Work m (Option (Constraint × Validation)) := do
  return (← registry.applicable? name path).map fun constraint =>
    (constraint, .ofNote constraint.rules path content)

end NoteVault.Registry
