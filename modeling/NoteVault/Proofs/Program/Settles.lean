import NoteVault.Proofs.Program.Ends

namespace NoteVault

open Registry Session

variable {σ α β : Type}

-- A call that reaches the vault whatever the state of the judge.
def Policy.Passes (policy : Policy σ) (call : Call α) : Prop :=
  ∀ state, (policy.judge call state).1 = .perform call

-- Work that can end in one way only, whatever the state: with this outcome and this
-- vault.
def Settles (work : Work (Session σ) α) (vault : Vault) (outcome : Except Failure α)
    (after : Vault) : Prop :=
  ∀ state, Ends work state vault (fun value _ last => outcome = .ok value ∧ last = after)
    fun failure _ last => outcome = .error failure ∧ last = after

-- How a program ends that cannot fail.
@[irreducible] def Leads (program : Session σ α) (state : σ) (vault : Vault)
    (done : α → σ → Vault → Prop) : Prop :=
  done (result program state vault) (stateAfter program state vault) (vaultAfter program state vault)

section

variable {work : Work (Session σ) α} {state : σ} {vault middle after : Vault}
  {outcome : Except Failure β} {value : α} {failure : Failure}

namespace Settles

theorem pure (value : α) : Settles (σ := σ) (Pure.pure value) vault (.ok value) vault :=
  fun _ => (ends_pure value).mpr ⟨rfl, rfl⟩

theorem throw (failure : Failure) :
    Settles (σ := σ) (α := α) (MonadExcept.throw failure) vault (.error failure) vault :=
  fun _ => (ends_throw failure).mpr ⟨rfl, rfl⟩

-- What follows work that settles starts from what it settled on.
theorem ends_bind (first : Settles work vault (.ok value) middle) {next : α → Work (Session σ) β}
    {done : β → σ → Vault → Prop} {failed : Failure → σ → Vault → Prop}
    (rest : ∀ state, Ends (next value) state middle done failed) :
    Ends (work >>= next) state vault done failed := by
  rw [NoteVault.ends_bind]
  refine (first state).mono ?_ ?_
  · rintro _ state _ ⟨⟨⟩, rfl⟩
    exact rest state
  · rintro _ _ _ ⟨h, -⟩
    cases h

theorem bind (first : Settles work vault (.ok value) middle) {next : α → Work (Session σ) β}
    (rest : Settles (next value) middle outcome after) :
    Settles (work >>= next) vault outcome after :=
  fun _ => first.ends_bind rest

theorem bind_error (first : Settles work vault (.error failure) after)
    (next : α → Work (Session σ) β) : Settles (work >>= next) vault (.error failure) after := by
  intro state
  rw [NoteVault.ends_bind]
  refine (first state).mono ?_ ?_
  · rintro _ _ _ ⟨h, -⟩
    cases h
  · rintro _ _ _ ⟨⟨⟩, rfl⟩
    exact ⟨rfl, rfl⟩

theorem mapM {items : List α} {step : α → Work (Session σ) β} {value : α → β}
    (h : ∀ item ∈ items, Settles (step item) vault (.ok (value item)) vault) :
    Settles (items.mapM step) vault (.ok (items.map value)) vault := by
  induction items with
  | nil => exact pure []
  | cons item items ih =>
      rw [List.mapM_cons]
      refine (h item List.mem_cons_self).bind ?_
      exact (ih fun other ho => h other (List.mem_cons_of_mem item ho)).bind (pure _)

section

variable {policy : Policy σ} {clock : σ → Time.Instant × σ} {root : String} {call : Call α}

theorem perform (clock : σ → Time.Instant × σ) (root : String) (h : policy.Passes call)
    (vault : Vault) :
    Settles (liftM ((inMemory policy clock root).storage.perform call) : Work (Session σ) _) vault
      (.ok (vault.perform call).1) (vault.perform call).2 := by
  intro state
  have hrun : (inMemory policy clock root).storage.perform call state vault = _ :=
    respond_of_perform (Prod.ext (h state) rfl) vault
  rw [ends_lift]
  simp only [result, vaultAfter, hrun]
  exact ⟨trivial, trivial⟩

theorem ask (h : policy.Passes call) {answer : α} (hdone : vault.perform call = (.ok answer, after)) :
    Settles ((inMemory policy clock root).storage.ask call) vault (.ok answer) after := by
  have hperform := perform clock root h vault
  rw [hdone] at hperform
  exact hperform.bind (pure answer)

end

end Settles

-- Two accounts of one run hold together.
theorem Ends.and {done other : α → σ → Vault → Prop} {failed otherFailed : Failure → σ → Vault → Prop}
    (h : Ends work state vault done failed) (ho : Ends work state vault other otherFailed) :
    Ends work state vault (fun value state vault => done value state vault ∧ other value state vault)
      fun failure state vault => failed failure state vault ∧ otherFailed failure state vault := by
  unfold Ends at *
  split at h
  · rename_i hrun
    rw [hrun] at ho
    exact ⟨h, ho⟩
  · rename_i hrun
    rw [hrun] at ho
    exact ⟨h, ho⟩

section

variable {program : Session σ α} {next : α → Session σ β} {done other : α → σ → Vault → Prop}
  {last : β → σ → Vault → Prop} {failed : Failure → σ → Vault → Prop}

theorem Leads.mono (h : Leads program state vault done)
    (hdone : ∀ value state vault, done value state vault → other value state vault) :
    Leads program state vault other := by
  unfold Leads at h ⊢
  exact hdone _ _ _ h

theorem Leads.and (h : Leads program state vault done) (ho : Leads program state vault other) :
    Leads program state vault fun value state vault =>
      done value state vault ∧ other value state vault := by
  unfold Leads at *
  exact ⟨h, ho⟩

theorem leads_pure : Leads (pure value) state vault done ↔ done value state vault := by
  unfold Leads
  exact Iff.rfl

-- What follows leads there from everywhere, so it does after anything.
theorem Leads.after_any (hnext : ∀ value state vault, Leads (next value) state vault last) :
    Leads (program >>= next) state vault last := by
  unfold Leads at *
  exact hnext _ _ _

theorem leads_bind : Leads (program >>= next) state vault last ↔
    Leads program state vault fun value state vault => Leads (next value) state vault last := by
  unfold Leads
  exact Iff.rfl

theorem ends_liftM : Ends (liftM program) state vault done failed ↔ Leads program state vault done := by
  rw [ends_lift]
  unfold Leads
  exact Iff.rfl

theorem leads_run {work : Work (Session σ) α} {done : Except Failure α → σ → Vault → Prop} :
    Leads work.run state vault done ↔ Ends work state vault (fun value => done (.ok value))
      fun failure => done (.error failure) := by
  unfold Leads Ends result stateAfter vaultAfter
  rcases work.run state vault with ⟨⟨_ | _, _⟩, _⟩ <;> exact Iff.rfl

-- What is said of the outcome and the vault, in either case.
theorem Ends.holds_outcome {work : Work (Session σ) α} (holds : Except Failure α → Vault → Prop)
    (h : Ends work state vault (fun value _ after => holds (.ok value) after) fun failure _ after =>
      holds (.error failure) after) :
    holds (Session.result work.run state vault) (Session.vaultAfter work.run state vault) := by
  have hleads : Leads work.run state vault fun outcome _ after => holds outcome after := leads_run.mpr h
  unfold Leads at hleads
  exact hleads

-- What is said of the result alone, in either case.
theorem Ends.result {work : Work (Session σ) α} (holds : Except Failure α → Prop)
    (h : Ends work state vault (fun value _ _ => holds (.ok value)) fun failure _ _ =>
      holds (.error failure)) : holds (result work.run state vault) :=
  h.holds_outcome fun outcome _ => holds outcome

section

variable {policy : Policy σ} {clock : σ → Time.Instant × σ} {root : String} {call : Call α}
  {answered : Except StorageFault α → σ → Vault → Prop}

theorem leads_of_passes (h : policy.Passes call)
    (hdone : ∀ next, answered (vault.perform call).1 next (vault.perform call).2) :
    Leads ((inMemory policy clock root).storage.perform call) state vault answered := by
  refine ends_liftM.mp ((Settles.perform clock root h vault state).mono ?_ fun _ _ _ h => h)
  rintro _ next _ ⟨⟨⟩, rfl⟩
  exact hdone next

theorem leads_of_mayRefuse (hp : policy.MayRefuse call)
    (hdone : ∀ answer next, (vault.perform call).1 = .ok answer →
      answered (.ok answer) next (vault.perform call).2)
    (hfailed : ∀ fault next, answered (.error fault) next vault) :
    Leads ((inMemory policy clock root).storage.perform call) state vault answered := by
  have hends : Ends (liftM ((inMemory policy clock root).storage.perform call)) state vault answered
      fun _ _ _ => True := ends_perform_mayRefuse hp hdone hfailed
  exact ends_liftM.mp hends

theorem leads_now {done : Time.Instant → σ → Vault → Prop}
    (hdone : done (clock state).1 (clock state).2 vault) :
    Leads (inMemory policy clock root).now state vault done := by
  unfold Leads
  exact hdone

end

end

end

end NoteVault
