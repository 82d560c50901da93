import NoteVault.Path.Basic
import NoteVault.Rules.Shape

namespace NoteVault

-- The rules for the notes in a folder of a knowledge base, and below it.
structure Constraint where
  knowledgeBase : String
  subfolder : String
  rules : Rules
deriving DecidableEq, Repr

namespace Constraint

def toJson (constraint : Constraint) : Json.Value :=
  .ofFields [("kb_name", .string constraint.knowledgeBase),
    ("subfolder", .string constraint.subfolder), ("rules", constraint.rules.toJson)]

-- Whether a note at the normal path lies in the constraint's folder or below.
def governs (constraint : Constraint) (path : String) : Bool :=
  let folder := Path.normalize constraint.subfolder
  Path.parent path == folder || (folder.toList ++ ['/']).isPrefixOf path.toList

def depth (constraint : Constraint) : Nat :=
  (Path.normalize constraint.subfolder).utf8ByteSize

-- Of two constraints the one with the longer folder, the first of equals.
def closer (best : Option Constraint) (constraint : Constraint) : Option Constraint :=
  match best with
  | none => some constraint
  | some other => if other.depth < constraint.depth then some constraint else some other

-- The constraint for a note: of those that govern it, the one with the longest
-- folder. The folders that hold one path lie on one line, so that the longest is
-- the nearest.
def applicable? (path : String) (constraints : List Constraint) : Option Constraint :=
  (constraints.filter (·.governs (Path.normalize path))).foldl closer none

end Constraint

end NoteVault
