import NoteVault.Notes
import NoteVault.Proofs.Program.Session

namespace NoteVault

open Session

variable {σ α β : Type}

-- How work ends that starts here: one condition is on a result and another on a
-- failure, each with the state and the vault at the end. Only the rules below
-- open it, since a case split on a run would carry it out.
@[irreducible] def Ends (work : Work (Session σ) α) (state : σ) (vault : Vault)
    (done : α → σ → Vault → Prop) (failed : Failure → σ → Vault → Prop) : Prop :=
  match work.run state vault with
  | ((.ok value, state), vault) => done value state vault
  | ((.error failure, state), vault) => failed failure state vault

variable {work : Work (Session σ) α} {state : σ} {vault : Vault} {done other : α → σ → Vault → Prop}
  {failed otherFailed : Failure → σ → Vault → Prop}

theorem Ends.mono (h : Ends work state vault done failed)
    (hdone : ∀ value state vault, done value state vault → other value state vault)
    (hfailed : ∀ failure state vault, failed failure state vault → otherFailed failure state vault) :
    Ends work state vault other otherFailed := by
  unfold Ends at h ⊢
  split at h
  · exact hdone _ _ _ h
  · exact hfailed _ _ _ h

theorem ends_of_run_ok {value : α} {next : σ} {after : Vault}
    (h : work.run state vault = ((.ok value, next), after)) :
    Ends work state vault done failed ↔ done value next after := by
  unfold Ends
  rw [h]

theorem ends_of_run_error {failure : Failure} {next : σ} {after : Vault}
    (h : work.run state vault = ((.error failure, next), after)) :
    Ends work state vault done failed ↔ failed failure next after := by
  unfold Ends
  rw [h]

@[simp] theorem ends_pure (value : α) :
    Ends (pure value) state vault done failed ↔ done value state vault := by
  unfold Ends
  exact Iff.rfl

@[simp] theorem ends_throw (failure : Failure) :
    Ends (throw failure : Work (Session σ) α) state vault done failed ↔
      failed failure state vault := by
  unfold Ends
  exact Iff.rfl

theorem ends_bind {next : α → Work (Session σ) β} {last : β → σ → Vault → Prop} :
    Ends (work >>= next) state vault last failed ↔
      Ends work state vault (fun value state vault => Ends (next value) state vault last failed)
        failed := by
  have hrun : (work >>= next).run state vault =
      ExceptT.bindCont next (result work.run state vault) (stateAfter work.run state vault)
        (vaultAfter work.run state vault) := rfl
  unfold Ends
  rw [hrun]
  unfold result stateAfter vaultAfter
  rcases work.run state vault with ⟨⟨_ | _, _⟩, _⟩ <;> exact Iff.rfl

theorem ends_mapM {items : List α} {step : α → Work (Session σ) β} {post : α → β → Prop}
    (h : ∀ item ∈ items, ∀ state, Ends (step item) state vault
      (fun value _ after => post item value ∧ after = vault) failed) :
    Ends (items.mapM step) state vault
      (fun values _ after => (∀ value ∈ values, ∃ item ∈ items, post item value) ∧ after = vault)
      failed := by
  induction items generalizing state with
  | nil => exact (ends_pure []).mpr ⟨fun _ hv => (nomatch hv), rfl⟩
  | cons item items ih =>
      rw [List.mapM_cons, ends_bind]
      refine (h item List.mem_cons_self state).mono ?_ fun _ _ _ h => h
      rintro value next _ ⟨hvalue, rfl⟩
      rw [ends_bind]
      refine (ih fun other ho => h other (List.mem_cons_of_mem item ho)).mono ?_ fun _ _ _ h => h
      rintro values _ _ ⟨hvalues, rfl⟩
      refine (ends_pure _).mpr ⟨fun other ho => ?_, rfl⟩
      rcases List.mem_cons.mp ho with rfl | ho
      · exact ⟨item, List.mem_cons_self, hvalue⟩
      · obtain ⟨source, hsource, hpost⟩ := hvalues other ho
        exact ⟨source, List.mem_cons_of_mem item hsource, hpost⟩

-- What follows ends well wherever it starts, so it does after anything.
theorem Ends.after_any {next : α → Work (Session σ) β} {last : β → σ → Vault → Prop}
    (hnext : ∀ value state vault, Ends (next value) state vault last fun _ _ _ => True) :
    Ends (work >>= next) state vault last fun _ _ _ => True := by
  have hwork : Ends work state vault (fun _ _ _ => True) fun _ _ _ => True := by
    unfold Ends
    split <;> trivial
  exact ends_bind.mpr (hwork.mono (fun value state vault _ => hnext value state vault) fun _ _ _ h => h)

-- Works that go on alike from where a first one ends have the same run.
theorem Ends.run_bind_congr {next last : α → Work (Session σ) β}
    (h : Ends work state vault
      (fun value state vault => (next value).run state vault = (last value).run state vault)
      fun _ _ _ => True) :
    (work >>= next).run state vault = (work >>= last).run state vault := by
  have hrun : ∀ rest : α → Work (Session σ) β, (work >>= rest).run state vault =
      ExceptT.bindCont rest (work.run state vault).1.1 (work.run state vault).1.2
        (work.run state vault).2 := fun _ => rfl
  rw [hrun, hrun]
  unfold Ends at h
  split at h
  · rename_i hfirst
    rw [hfirst]
    exact h
  · rename_i hfirst
    rw [hfirst]
    rfl

theorem ends_lift {program : Session σ α} :
    Ends (liftM program : Work (Session σ) α) state vault done failed ↔
      done (result program state vault) (stateAfter program state vault)
        (vaultAfter program state vault) := by
  unfold Ends
  exact Iff.rfl

theorem ends_orFail {ε : Type} {failure : ε → Failure} {outcome : Except ε α} :
    Ends (orFail failure outcome) state vault done failed ↔
      match outcome with
      | .ok value => done value state vault
      | .error fault => failed (failure fault) state vault := by
  unfold Ends
  cases outcome <;> exact Iff.rfl

theorem Ends.after_orFail {ε : Type} {failure : ε → Failure} {outcome : Except ε α}
    {next : α → Work (Session σ) β} {last : β → σ → Vault → Prop}
    (hnext : ∀ value, outcome = .ok value → Ends (next value) state vault last failed)
    (hfailed : ∀ fault, outcome = .error fault → failed (failure fault) state vault) :
    Ends (orFail failure outcome >>= next) state vault last failed := by
  rw [ends_bind, ends_orFail]
  cases outcome with
  | ok value => exact hnext value rfl
  | error fault => exact hfailed fault rfl

-- What is said of the vault alone, in either case.
theorem Ends.vaultAfter {keeps : Vault → Prop}
    (h : Ends work state vault (fun _ _ after => keeps after) fun _ _ after => keeps after) :
    keeps (Session.vaultAfter work.run state vault) := by
  unfold Ends at h
  unfold Session.vaultAfter
  split at h
  · rename_i hrun
    rwa [hrun]
  · rename_i hrun
    rwa [hrun]

-- What every answer keeps, work keeps whether it succeeds or fails.
theorem Registry.Works.ends {registry : Registry (Session σ)} {contract : Contract} {post : α → Prop}
    (inv : σ → Vault → Prop)
    (hevent : ∀ {β : Type} (event : Event β), contract.asks event → ∀ state vault, inv state vault →
      contract.hears event (result (registry.respond event) state vault) ∧
        inv (stateAfter (registry.respond event) state vault)
          (vaultAfter (registry.respond event) state vault))
    (h : registry.Works contract work post) (hinv : inv state vault) :
    Ends work state vault (fun value state vault => post value ∧ inv state vault)
      fun _ state vault => inv state vault := by
  have hkeeps := Registry.Follows.keeps hevent h state vault hinv
  unfold Ends
  split
  · rename_i hrun
    simp only [result, stateAfter, vaultAfter, hrun] at hkeeps
    exact ⟨hkeeps.1 _ rfl, hkeeps.2⟩
  · rename_i hrun
    simp only [stateAfter, vaultAfter, hrun] at hkeeps
    exact hkeeps.2

-- The contract of work that only reads the vault. Its calls may be refused.
def Contract.reading (vault : Vault) : Contract where
  asks
    | .call call => call.IsQuestion
    | .now => False
    | .depth => True
  hears
    | .call call, answer => answer = (vault.perform call).1 ∨ ∃ fault, answer = .error fault
    | .now, _ => True
    | .depth, _ => True

namespace Registry

variable {policy : Policy σ} {clock : σ → Time.Instant × σ} {root : String} {post : α → Prop}

-- Work that only reads leaves the vault as it is.
theorem Works.ends_reading (hp : policy.OnlyRefuses)
    (h : (inMemory policy clock root).Works (.reading vault) work post) :
    Ends work state vault (fun value _ after => post value ∧ after = vault)
      fun _ _ after => after = vault := by
  refine h.ends (fun _ after => after = vault) ?_ rfl
  intro β event hasks state after hsame
  subst hsame
  cases event with
  | call call =>
      obtain ⟨next, hrun | ⟨fault, hrun⟩⟩ :=
        respond_mayRefuse clock root (hp call) state after
      · simp only [result, vaultAfter, hrun]
        exact ⟨.inl rfl, Vault.perform_question call hasks⟩
      · simp only [result, vaultAfter, hrun]
        exact ⟨.inr ⟨fault, rfl⟩, trivial⟩
  | now => exact hasks.elim
  | depth => exact ⟨trivial, rfl⟩

end Registry

section

variable {policy : Policy σ} {clock : σ → Time.Instant × σ} {root : String} {post : α → Prop}

open Registry

-- Reading goes before what follows without a trace.
theorem Ends.after_reading (hp : policy.OnlyRefuses)
    (h : (inMemory policy clock root).Works (.reading vault) work post)
    {next : α → Work (Session σ) β} {last : β → σ → Vault → Prop}
    (hnext : ∀ value state, post value → Ends (next value) state vault last failed)
    (hfailed : ∀ failure state, failed failure state vault) :
    Ends (work >>= next) state vault last failed := by
  rw [ends_bind]
  refine (h.ends_reading hp).mono ?_ ?_
  · rintro value state _ ⟨hvalue, rfl⟩
    exact hnext value state hvalue
  · rintro failure state _ rfl
    exact hfailed failure state

-- A call that is at most refused is done, or the vault is as before.
theorem ends_perform_mayRefuse {call : Call α} (hp : policy.MayRefuse call)
    {last : Except StorageFault α → σ → Vault → Prop}
    (hdone : ∀ answer state, (vault.perform call).1 = .ok answer →
      last (.ok answer) state (vault.perform call).2)
    (hfailed : ∀ fault state, last (.error fault) state vault) :
    Ends (liftM ((inMemory policy clock root).storage.perform call) : Work (Session σ) _) state vault
      last failed := by
  rw [ends_lift]
  obtain ⟨next, hrun | ⟨fault, hrun⟩⟩ := respond_mayRefuse clock root hp state vault
  · simp only [respond] at hrun
    simp only [result, stateAfter, vaultAfter, hrun]
    cases h : (vault.perform call).1 with
    | ok answer => exact hdone answer next h
    | error fault =>
        rw [Vault.perform_error h]
        exact hfailed fault next
  · simp only [respond] at hrun
    simp only [result, stateAfter, vaultAfter, hrun]
    exact hfailed fault next

theorem ends_perform (hp : policy.OnlyRefuses) {call : Call α}
    {last : Except StorageFault α → σ → Vault → Prop}
    (hdone : ∀ answer state, (vault.perform call).1 = .ok answer →
      last (.ok answer) state (vault.perform call).2)
    (hfailed : ∀ fault state, last (.error fault) state vault) :
    Ends (liftM ((inMemory policy clock root).storage.perform call) : Work (Session σ) _) state vault
      last failed :=
  ends_perform_mayRefuse (hp call) hdone hfailed

theorem Ends.of_throw_bind {failure : Failure} {next : β → Work (Session σ) α}
    (h : failed failure state vault) :
    Ends (MonadExcept.throw failure >>= next) state vault done failed := by
  rw [ends_bind]
  exact (ends_throw failure).mpr h

theorem ends_ask (hp : policy.OnlyRefuses) {call : Call α}
    (hdone : ∀ answer state, (vault.perform call).1 = .ok answer →
      done answer state (vault.perform call).2)
    (hfailed : ∀ fault state, failed (.storage fault) state vault) :
    Ends ((inMemory policy clock root).storage.ask call) state vault done failed := by
  unfold Storage.ask
  rw [ends_bind]
  refine ends_perform hp (fun answer next hok => ?_) fun fault next => ?_
  · exact (ends_pure answer).mpr (hdone answer next hok)
  · exact (ends_throw _).mpr (hfailed fault next)

theorem ends_askNote (hp : policy.OnlyRefuses) {call : Call α}
    (hdone : ∀ answer state, (vault.perform call).1 = .ok answer →
      done answer state (vault.perform call).2)
    (hfailed : ∀ fault state, failed (noteFailure fault) state vault) :
    Ends ((inMemory policy clock root).askNote call) state vault done failed := by
  unfold Registry.askNote
  rw [ends_bind]
  refine ends_perform hp (fun answer next hok => ?_) fun fault next => ?_
  · exact (ends_pure answer).mpr (hdone answer next hok)
  · exact (ends_throw _).mpr (hfailed fault next)

end

end NoteVault
