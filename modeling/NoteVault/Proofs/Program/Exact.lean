import NoteVault.Proofs.Program.Ends

namespace NoteVault

open Registry Session

-- The knowledge base that a scan finds in a folder.
def Vault.recordIn? (vault : Vault) (folder : String) : Option KnowledgeBase :=
  match (vault.perform (.read (Path.below folder recordName))).1 with
  | .ok text => (KnowledgeBase.ofRecord (Path.fileName folder) text).toOption
  | .error _ => none

-- The constraint that is found in a document.
def Vault.constraintAt? (vault : Vault) (name path : String) : Option Constraint :=
  match (vault.perform (.read path)).1 with
  | .ok text => (Constraint.ofDocument name text).toOption
  | .error _ => none

variable {σ α β : Type} {work : Work (Session σ) α} {state next : σ} {vault after : Vault}

theorem run_bind (work : Work (Session σ) α) (rest : α → Work (Session σ) β) (state : σ)
    (vault : Vault) : (work >>= rest).run state vault =
      ExceptT.bindCont rest (work.run state vault).1.1 (work.run state vault).1.2
        (work.run state vault).2 :=
  rfl

theorem run_bind_ok {value : α} (h : work.run state vault = ((.ok value, next), after))
    (rest : α → Work (Session σ) β) :
    (work >>= rest).run state vault = (rest value).run next after := by
  rw [run_bind, h]
  rfl

theorem run_bind_error {failure : Failure}
    (h : work.run state vault = ((.error failure, next), after)) (rest : α → Work (Session σ) β) :
    (work >>= rest).run state vault = ((.error failure, next), after) := by
  rw [run_bind, h]
  rfl

theorem run_bind_of_eq {other : Work (Session σ) α}
    (h : work.run state vault = other.run state vault) (rest : α → Work (Session σ) β) :
    (work >>= rest).run state vault = (other >>= rest).run state vault := by
  rw [run_bind, run_bind, h]

theorem run_orFail {ε : Type} {failure : ε → Failure} {outcome : Except ε α} {value : α}
    (h : outcome = .ok value) :
    (orFail failure outcome : Work (Session σ) α).run state vault = ((.ok value, state), vault) := by
  subst h
  rfl

theorem run_mapM {items : List α} {step : α → Work (Session σ) β} {value : α → β}
    (h : ∀ item ∈ items, (step item).run state vault = ((.ok (value item), state), vault)) :
    (items.mapM step).run state vault = ((.ok (items.map value), state), vault) := by
  induction items with
  | nil => rfl
  | cons item items ih =>
      rw [List.mapM_cons, run_bind_ok (h item List.mem_cons_self),
        run_bind_ok (ih fun other ho => h other (List.mem_cons_of_mem item ho))]
      rfl

section

variable {clock : σ → Time.Instant × σ} {root : String} {call : Call α}

-- Without a judge, a call is answered by the vault.
theorem run_perform :
    (liftM ((inMemory .allowing clock root).storage.perform call) : Work (Session σ) _).run state
        vault = ((.ok (vault.perform call).1, state), (vault.perform call).2) := rfl

theorem run_ask {answer : α} (h : vault.perform call = (.ok answer, after)) :
    ((inMemory .allowing clock root).storage.ask call).run state vault =
      ((.ok answer, state), after) := by
  unfold Storage.ask
  rw [run_bind_ok run_perform, h]
  rfl

theorem run_askNote {answer : α} (h : vault.perform call = (.ok answer, after)) :
    ((inMemory .allowing clock root).askNote call).run state vault =
      ((.ok answer, state), after) := by
  unfold Registry.askNote
  rw [run_bind_ok run_perform, h]
  rfl

-- What is in a folder that does not climb. A folder that is missing holds nothing.
theorem run_listingOf {folder : String} (h : Path.hasTraversal folder = false) :
    (listingOf (inMemory .allowing clock root).storage folder).run state vault =
      ((.ok (if (Path.normalize folder).isEmpty || vault.hasFolder (Path.normalize folder) then
        vault.listing (Path.normalize folder) else .empty), state), vault) := by
  unfold listingOf
  rw [run_bind_ok run_perform, Vault.list_of_stays h, Vault.answer]
  generalize Path.normalize folder = normal
  cases normal.isEmpty || vault.hasFolder normal <;> rfl

theorem run_recordIn (folder : String) :
    ((inMemory .allowing clock root).recordIn? folder).run state vault =
      ((.ok (vault.recordIn? folder), state), vault) := by
  unfold Registry.recordIn? Vault.recordIn?
  rw [run_bind_ok run_perform, Vault.perform_question _ (by trivial)]
  cases (vault.perform (.read (Path.below folder recordName))).1 <;> rfl

theorem run_constraintAt (name path : String) :
    ((inMemory .allowing clock root).constraintAt? name path).run state vault =
      ((.ok (vault.constraintAt? name path), state), vault) := by
  unfold Registry.constraintAt? Vault.constraintAt?
  rw [run_bind_ok run_perform, Vault.perform_question _ (by trivial)]
  cases (vault.perform (.read path)).1 <;> rfl

end

end NoteVault
