import NoteVault.Storage.Call

namespace NoteVault

-- The kinds of calls.
inductive Method where
  | read
  | write
  | delete
  | rename
  | createFolder
  | list
  | isPresent
deriving DecidableEq, Repr

namespace Call

def method {α : Type} : Call α → Method
  | .read _ => .read
  | .write .. => .write
  | .delete _ => .delete
  | .rename .. => .rename
  | .createFolder _ => .createFolder
  | .list _ => .list
  | .isPresent _ => .isPresent

-- The path that a call is known by: of a rename, the source.
def path {α : Type} : Call α → String
  | .read path => path
  | .write path .. => path
  | .delete path => path
  | .rename source _ => source
  | .createFolder path => path
  | .list path => path
  | .isPresent path => path

end Call

-- How a disturbed call is refused.
inductive Refusal where
  | notFound
  | alreadyExists
  | inputOutput
deriving DecidableEq, Repr

def Refusal.fault (path : String) : Refusal → StorageFault
  | .notFound => .notFound path
  | .alreadyExists => .alreadyExists path
  | .inputOutput => .inputOutput

-- Calls that are to be refused: a number of calls of one method whose paths end
-- in a certain way.
structure Disturbance where
  method : Method
  ending : String
  times : Nat
  refusal : Refusal
deriving DecidableEq, Repr

-- Another writer, who replaces the text of one write to such a path.
structure Replacement where
  ending : String
  text : String
deriving DecidableEq, Repr

-- What is going to disturb a vault. What was added first comes first.
structure Interference where
  disturbances : List Disturbance
  replacements : List Replacement
deriving DecidableEq, Repr

def endsWith (path ending : String) : Bool :=
  ending.toList.isSuffixOf path.toList

namespace Disturbance

def concerns {α : Type} (disturbance : Disturbance) (call : Call α) : Bool :=
  disturbance.method == call.method && endsWith call.path disturbance.ending &&
    0 < disturbance.times

-- The refusal of a call, and the disturbances that are left.
def take? {α : Type} (call : Call α) : List Disturbance → Option (Refusal × List Disturbance)
  | [] => none
  | disturbance :: rest =>
    if disturbance.concerns call then
      some (disturbance.refusal, { disturbance with times := disturbance.times - 1 } :: rest)
    else (take? call rest).map fun (refusal, rest) => (refusal, disturbance :: rest)

end Disturbance

-- The text of another writer, and the replacements that are left.
def Replacement.take? (path : String) : List Replacement → Option (String × List Replacement)
  | [] => none
  | replacement :: rest =>
    if endsWith path replacement.ending then some (replacement.text, rest)
    else (take? path rest).map fun (text, rest) => (text, replacement :: rest)

namespace Interference

def quiet : Interference := ⟨[], []⟩

-- The call that reaches the vault when none is refused.
def replace {α : Type} (interference : Interference) : Call α → Call α × Interference
  | .write path text mode =>
    match Replacement.take? path interference.replacements with
    | some (other, rest) =>
      (.write path other .overwrite, { interference with replacements := rest })
    | none => (.write path text mode, interference)
  | call => (call, interference)

-- Refusals come before replacements.
def policy : Policy Interference where
  judge call interference :=
    match Disturbance.take? call interference.disturbances with
    | some (refusal, rest) =>
      (.refuse (refusal.fault call.path), { interference with disturbances := rest })
    | none =>
      let (call, interference) := interference.replace call
      (.perform call, interference)

end Interference

end NoteVault
