import NoteVault.Proofs.Program.Follows
import NoteVault.Proofs.Storage.Effect
import NoteVault.Storage.Call

namespace NoteVault

-- Programs on a vault in memory, with a state for the judge of calls and the clock.
abbrev Session (σ : Type) := StateT σ (StateM Vault)

variable {σ α β : Type}

namespace Session

def result (program : Session σ α) (state : σ) (vault : Vault) : α :=
  (program state vault).1.1

def stateAfter (program : Session σ α) (state : σ) (vault : Vault) : σ :=
  (program state vault).1.2

def vaultAfter (program : Session σ α) (state : σ) (vault : Vault) : Vault :=
  (program state vault).2

variable (program : Session σ α) (next : α → Session σ β) (state : σ) (vault : Vault)

theorem result_bind :
    result (program >>= next) state vault = result (next (result program state vault))
      (stateAfter program state vault) (vaultAfter program state vault) := rfl

theorem stateAfter_bind :
    stateAfter (program >>= next) state vault = stateAfter (next (result program state vault))
      (stateAfter program state vault) (vaultAfter program state vault) := rfl

theorem vaultAfter_bind :
    vaultAfter (program >>= next) state vault = vaultAfter (next (result program state vault))
      (stateAfter program state vault) (vaultAfter program state vault) := rfl

end Session

open Session

namespace Policy

-- The judge who lets all calls pass.
def allowing : Policy σ where
  judge call state := (.perform call, state)

-- A call that reaches the vault as it is, or is refused before.
def MayRefuse (policy : Policy σ) (call : Call α) : Prop :=
  ∀ state, (policy.judge call state).1 = .perform call ∨
    ∃ fault, (policy.judge call state).1 = .refuse fault

-- Calls reach the vault as they are, or are refused before.
def OnlyRefuses (policy : Policy σ) : Prop :=
  ∀ {α : Type} (call : Call α) (state : σ),
    (policy.judge call state).1 = .perform call ∨
      ∃ fault, (policy.judge call state).1 = .refuse fault

-- The judge who counts calls and refuses some of them.
def refusing (turns : List Nat) (fault : StorageFault) : Policy Nat where
  judge call turn := (if turn ∈ turns then .refuse fault else .perform call, turn + 1)

theorem onlyRefuses_refusing (turns : List Nat) (fault : StorageFault) :
    OnlyRefuses (refusing turns fault) := by
  intro α call turn
  by_cases hturn : turn ∈ turns
  · exact .inr ⟨fault, if_pos hturn⟩
  · exact .inl (if_neg hturn)

theorem onlyRefuses_allowing : OnlyRefuses (allowing : Policy σ) :=
  fun _ _ => .inl rfl

end Policy

namespace Registry

-- A registry on a vault in memory. Its calls are judged, and its clock shows
-- whatever the state makes it show.
def inMemory (policy : Policy σ) (clock : σ → Time.Instant × σ) (root : String) :
    Registry (Session σ) :=
  .ofRoot (Storage.memory.under policy) (modifyGet clock) root

variable {policy : Policy σ} {clock : σ → Time.Instant × σ} {root : String}

theorem root_inMemory : (inMemory policy clock root).root = Path.normalize root := rfl

-- The judge has the word before the vault.
theorem respond_call (call : Call α) (state : σ) (vault : Vault) :
    (inMemory policy clock root).respond (.call call) state vault =
      match policy.judge call state with
      | (.perform other, next) => (((vault.perform other).1, next), (vault.perform other).2)
      | (.refuse fault, next) => ((.error fault, next), vault) := by
  have hrun : (inMemory policy clock root).respond (.call call) state vault =
      ((Storage.memory.under policy).perform call).run state vault := rfl
  rw [hrun]
  rcases h : policy.judge call state with ⟨other | fault, next⟩ <;>
    simp only [Storage.under, StateT.run_bind, StateT.run_get, StateT.run_set, pure_bind, h] <;> rfl

theorem respond_of_perform {call other : Call α} {state next : σ}
    (h : policy.judge call state = (.perform other, next)) (vault : Vault) :
    (inMemory policy clock root).respond (.call call) state vault =
      (((vault.perform other).1, next), (vault.perform other).2) := by
  rw [respond_call, h]

theorem respond_of_refuse {call : Call α} {fault : StorageFault} {state next : σ}
    (h : policy.judge call state = (.refuse fault, next)) (vault : Vault) :
    (inMemory policy clock root).respond (.call call) state vault =
      ((.error fault, next), vault) := by
  rw [respond_call, h]

@[simp] theorem respond_allowing (call : Call α) (state : σ) (vault : Vault) :
    (inMemory .allowing clock root).respond (.call call) state vault =
      (((vault.perform call).1, state), (vault.perform call).2) :=
  respond_of_perform rfl vault

-- A call that is at most refused is as without a judge, or nothing happens.
theorem respond_mayRefuse (clock : σ → Time.Instant × σ) (root : String) {call : Call α}
    (hp : policy.MayRefuse call) (state : σ) (vault : Vault) :
    ∃ next, (inMemory policy clock root).respond (.call call) state vault =
        (((vault.perform call).1, next), (vault.perform call).2) ∨
      ∃ fault, (inMemory policy clock root).respond (.call call) state vault =
        ((.error fault, next), vault) := by
  refine ⟨(policy.judge call state).2, ?_⟩
  rcases hp state with h | ⟨fault, h⟩
  · exact .inl (respond_of_perform (Prod.ext h rfl) vault)
  · exact .inr ⟨fault, respond_of_refuse (Prod.ext h rfl) vault⟩

end Registry

-- Two runs of one program side by side: they have the same result, which is as
-- described, and end related to each other.
structure Together (rel : σ → Vault → σ → Vault → Prop) (post : α → Prop) (program : Session σ α)
    (state : σ) (vault : Vault) (state' : σ) (vault' : Vault) : Prop where
  same : result program state' vault' = result program state vault
  post : post (result program state vault)
  rel : rel (stateAfter program state vault) (vaultAfter program state vault)
    (stateAfter program state' vault') (vaultAfter program state' vault')

namespace Registry.Follows

variable {registry : Registry (Session σ)} {contract : Contract} {program : Session σ α}
  {post : α → Prop}

-- Runs that start related go side by side, if the answers to all that is asked do.
theorem together (rel : σ → Vault → σ → Vault → Prop)
    (hevent : ∀ {β : Type} (event : Event β), contract.asks event → ∀ state vault state' vault',
      rel state vault state' vault' →
        Together rel (contract.hears event) (registry.respond event) state vault state' vault')
    (h : registry.Follows contract program post) :
    ∀ state vault state' vault', rel state vault state' vault' →
      Together rel post program state vault state' vault' := by
  induction h with
  | pure h => exact fun _ _ _ _ hrel => ⟨rfl, h, hrel⟩
  | bind first rest ih ihrest =>
      intro state vault state' vault' hrel
      have hfirst := ih state vault state' vault' hrel
      have hrest := ihrest _ hfirst.post _ _ _ _ hfirst.rel
      refine ⟨?_, hrest.post, ?_⟩
      · rw [result_bind, hfirst.same]
        exact hrest.same
      · rw [stateAfter_bind, vaultAfter_bind, stateAfter_bind _ _ state', vaultAfter_bind _ _ state',
          hfirst.same]
        exact hrest.rel
  | event event hasks hpost =>
      intro state vault state' vault' hrel
      have hboth := hevent _ hasks state vault state' vault' hrel
      exact ⟨hboth.same, hpost _ hboth.post, hboth.rel⟩

-- What every answer keeps, a run keeps.
theorem keeps {inv : σ → Vault → Prop}
    (hevent : ∀ {β : Type} (event : Event β), contract.asks event → ∀ state vault, inv state vault →
      contract.hears event (result (registry.respond event) state vault) ∧
        inv (stateAfter (registry.respond event) state vault)
          (vaultAfter (registry.respond event) state vault))
    (h : registry.Follows contract program post) (state : σ) (vault : Vault)
    (hinv : inv state vault) :
    post (result program state vault) ∧
      inv (stateAfter program state vault) (vaultAfter program state vault) := by
  have hboth := h.together
    (fun state vault state' vault' => state' = state ∧ vault' = vault ∧ inv state vault)
    (fun event hasks state vault state' vault' hrel => by
      obtain ⟨rfl, rfl, hi⟩ := hrel
      obtain ⟨hh, hi⟩ := hevent event hasks _ _ hi
      exact ⟨rfl, hh, rfl, rfl, hi⟩)
    state vault state vault ⟨rfl, rfl, hinv⟩
  exact ⟨hboth.post, hboth.rel.2.2⟩

end Registry.Follows

end NoteVault
