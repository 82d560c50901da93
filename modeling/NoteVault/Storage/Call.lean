import NoteVault.Failure

namespace NoteVault

-- How a write treats a file that is there already: it must not be, it must be,
-- or either.
inductive WriteMode where
  | create
  | modify
  | overwrite
deriving DecidableEq, Repr

-- What is directly inside a folder, by whole paths in order.
structure Listing where
  files : List String
  folders : List String
deriving DecidableEq, Repr

def Listing.empty : Listing := ⟨[], []⟩

-- The calls on a vault, each with the type of its answer. A folder that is
-- created comes with its parents and may be there already.
inductive Call : Type → Type where
  | read (path : String) : Call String
  | write (path text : String) (mode : WriteMode) : Call Unit
  | delete (path : String) : Call Unit
  | rename (source target : String) : Call Unit
  | createFolder (path : String) : Call Unit
  | list (path : String) : Call Listing
  | isPresent (path : String) : Call Bool

-- A vault that answers calls. A folder lies less deep than the depth, in
-- segments of its path, so that a walk through all folders ends.
structure Storage (m : Type → Type) where
  perform : {α : Type} → Call α → m (Except StorageFault α)
  depth : m Nat

-- Work on a vault. A failure does not undo what was done before it.
abbrev Work (m : Type → Type) := ExceptT Failure m

-- A call whose refusal ends the work.
def Storage.ask {m : Type → Type} [Monad m] {α : Type} (storage : Storage m) (call : Call α) :
    Work m α := do
  match ← storage.perform call with
  | .ok answer => return answer
  | .error fault => throw (.storage fault)

-- What becomes of a call on a vault. It reaches the vault, or another call does
-- in its place, or it is refused before.
inductive Verdict (α : Type) where
  | perform (call : Call α)
  | refuse (fault : StorageFault)

-- A judge of calls, who may go by all the calls before.
structure Policy (σ : Type) where
  judge : {α : Type} → Call α → σ → Verdict α × σ

-- A vault whose calls are judged.
def Storage.under {m : Type → Type} [Monad m] {σ : Type} (policy : Policy σ)
    (storage : Storage m) : Storage (StateT σ m) where
  perform call := do
    let (verdict, state) := policy.judge call (← get)
    set state
    match verdict with
    | .perform call => storage.perform call
    | .refuse fault => return .error fault
  depth := storage.depth

end NoteVault
