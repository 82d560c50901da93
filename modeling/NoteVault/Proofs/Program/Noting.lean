import NoteVault.Proofs.Program.Settles
import NoteVault.Storage.Interference

namespace NoteVault

open Registry Session

variable {σ α β : Type}

-- A call that did not reach the vault, with the fault that was given for it.
structure RefusedCall where
  method : Method
  paths : List String
  fault : StorageFault
deriving DecidableEq, Repr

def Call.refused (call : Call α) (fault : StorageFault) : RefusedCall :=
  ⟨call.method, call.paths, fault⟩

-- The list of refused calls after a call, the latest first.
def Verdict.notedFor (call : Call α) (noted : List RefusedCall) : Verdict α → List RefusedCall
  | .perform _ => noted
  | .refuse fault => call.refused fault :: noted

-- The same judge, who keeps a list of what he has refused. It has no bearing on what
-- he says.
def Policy.noting (policy : Policy σ) : Policy (σ × List RefusedCall) where
  judge call notes :=
    let (verdict, next) := policy.judge call notes.1
    (verdict, next, verdict.notedFor call notes.2)

theorem Policy.OnlyRefuses.noting {policy : Policy σ} (hp : policy.OnlyRefuses) :
    policy.noting.OnlyRefuses :=
  fun call notes => hp call notes.1

-- A registry on a vault in memory whose judge keeps notes.
abbrev Registry.noting (policy : Policy σ) (clock : σ → Time.Instant × σ) (root : String) :
    Registry (Session (σ × List RefusedCall)) :=
  inMemory policy.noting (fun notes => ((clock notes.1).1, (clock notes.1).2, notes.2)) root

section

variable {policy : Policy σ} {clock : σ → Time.Instant × σ} {root : String} {vault : Vault}
  {notes : σ × List RefusedCall}

-- A call is done and goes without a note, or it is refused and noted.
theorem respond_noting (clock : σ → Time.Instant × σ) (root : String) (hp : policy.OnlyRefuses)
    (call : Call α) (notes : σ × List RefusedCall) (vault : Vault) :
    ∃ next, (noting policy clock root).respond (.call call) notes vault =
        (((vault.perform call).1, next, notes.2), (vault.perform call).2) ∨
      ∃ fault, (noting policy clock root).respond (.call call) notes vault =
        ((.error fault, next, call.refused fault :: notes.2), vault) := by
  refine ⟨(policy.judge call notes.1).2, ?_⟩
  rcases hp call notes.1 with h | ⟨fault, h⟩
  · exact .inl (respond_of_perform (by simp only [Policy.noting, h, Verdict.notedFor]) vault)
  · exact .inr ⟨fault, respond_of_refuse (by simp only [Policy.noting, h, Verdict.notedFor]) vault⟩

theorem ends_perform_noting (hp : policy.OnlyRefuses) {call : Call α}
    {last : Except StorageFault α → σ × List RefusedCall → Vault → Prop}
    {failed : Failure → σ × List RefusedCall → Vault → Prop}
    (hdone : ∀ answer next, (vault.perform call).1 = .ok answer →
      last (.ok answer) (next, notes.2) (vault.perform call).2)
    (hfault : ∀ fault next, (vault.perform call).1 = .error fault →
      last (.error fault) (next, notes.2) vault)
    (hrefused : ∀ fault next, last (.error fault) (next, call.refused fault :: notes.2) vault) :
    Ends (liftM ((noting policy clock root).storage.perform call) : Work (Session _) _) notes vault
      last failed := by
  rw [ends_lift]
  obtain ⟨next, hrun | ⟨fault, hrun⟩⟩ := respond_noting clock root hp call notes vault
  · simp only [respond] at hrun
    simp only [result, stateAfter, vaultAfter, hrun]
    cases h : (vault.perform call).1 with
    | ok answer => exact hdone answer next h
    | error fault =>
        rw [Vault.perform_error h]
        exact hfault fault next h
  · simp only [respond] at hrun
    simp only [result, stateAfter, vaultAfter, hrun]
    exact hrefused fault next

section

variable {done : α → σ × List RefusedCall → Vault → Prop}
  {failed : Failure → σ × List RefusedCall → Vault → Prop}

theorem ends_ask_noting (hp : policy.OnlyRefuses) {call : Call α}
    (hdone : ∀ answer next, (vault.perform call).1 = .ok answer →
      done answer (next, notes.2) (vault.perform call).2)
    (hfault : ∀ fault next, (vault.perform call).1 = .error fault →
      failed (.storage fault) (next, notes.2) vault)
    (hrefused : ∀ fault next, failed (.storage fault) (next, call.refused fault :: notes.2) vault) :
    Ends ((noting policy clock root).storage.ask call) notes vault done failed := by
  unfold Storage.ask
  rw [ends_bind]
  refine ends_perform_noting hp (fun answer next hok => ?_) (fun fault next hfails => ?_)
    fun fault next => ?_
  · exact (ends_pure answer).mpr (hdone answer next hok)
  · exact (ends_throw _).mpr (hfault fault next hfails)
  · exact (ends_throw _).mpr (hrefused fault next)

theorem ends_askNote_noting (hp : policy.OnlyRefuses) {call : Call α}
    (hdone : ∀ answer next, (vault.perform call).1 = .ok answer →
      done answer (next, notes.2) (vault.perform call).2)
    (hfailed : ∀ failure later, failed failure later vault) :
    Ends ((noting policy clock root).askNote call) notes vault done failed := by
  unfold Registry.askNote
  rw [ends_bind]
  refine ends_perform_noting hp (fun answer next hok => ?_) (fun _ _ _ => ?_) fun _ _ => ?_
  · exact (ends_pure answer).mpr (hdone answer next hok)
  · exact (ends_throw _).mpr (hfailed _ _)
  · exact (ends_throw _).mpr (hfailed _ _)

end

end

section

variable {policy : Policy σ} {clock : σ → Time.Instant × σ} {root : String} {vault : Vault}
  {work : Work (Session (σ × List RefusedCall)) α}

-- Work that only reads changes nothing but the notes.
theorem Registry.Works.ends_reading_noting {post : α → Prop} (hp : policy.OnlyRefuses)
    (h : (noting policy clock root).Works (.reading vault) work post) (notes : σ × List RefusedCall) :
    Ends work notes vault (fun value later after => post value ∧ after = vault ∧ notes.2 ⊆ later.2)
      fun _ later after => after = vault ∧ notes.2 ⊆ later.2 := by
  refine h.ends (fun later after => after = vault ∧ notes.2 ⊆ later.2) ?_
    ⟨rfl, List.Subset.refl _⟩
  rintro β event hasks now after ⟨rfl, hgrows⟩
  cases event with
  | call call =>
      obtain ⟨next, hrun | ⟨fault, hrun⟩⟩ := respond_noting clock root hp call now after
      · simp only [result, stateAfter, vaultAfter, hrun]
        exact ⟨.inl rfl, Vault.perform_question call hasks, hgrows⟩
      · simp only [result, stateAfter, vaultAfter, hrun]
        exact ⟨.inr ⟨fault, rfl⟩, trivial, fun refusal hr => List.mem_cons_of_mem _ (hgrows hr)⟩
  | now => exact hasks.elim
  | depth => exact ⟨trivial, rfl, hgrows⟩

end

-- Reading under a judge who keeps notes. He adds to them all that he refuses, and if
-- they hold given refusals only, the value is as described.
def Learns (given : RefusedCall → Prop) (work : Work (Session (σ × List RefusedCall)) α) (vault : Vault)
    (learned : α → Prop) : Prop :=
  ∀ notes, Ends work notes vault
    (fun value later after => after = vault ∧ notes.2 ⊆ later.2 ∧
      ((∀ refusal ∈ later.2, given refusal) → learned value))
    fun _ _ after => after = vault

namespace Learns

variable {policy : Policy σ} {clock : σ → Time.Instant × σ} {root : String} {vault : Vault}
  {given : RefusedCall → Prop} {work : Work (Session (σ × List RefusedCall)) α} {learned : α → Prop}

theorem pure {value : α} (h : learned value) : Learns (σ := σ) given (Pure.pure value) vault learned :=
  fun _ => (ends_pure value).mpr ⟨rfl, List.Subset.refl _, fun _ => h⟩

theorem throw (failure : Failure) :
    Learns (σ := σ) given (MonadExcept.throw failure) vault learned :=
  fun _ => (ends_throw failure).mpr rfl

-- What is learned first bears on the rest only if the notes at the end allow it.
theorem bind {next : α → Work (Session (σ × List RefusedCall)) β} {last : β → Prop}
    (first : Learns given work vault learned)
    (rest : ∀ value, Learns given (next value) vault fun final => learned value → last final) :
    Learns given (work >>= next) vault last := by
  intro notes
  rw [ends_bind]
  refine (first notes).mono ?_ fun _ _ _ h => h
  rintro value middle _ ⟨rfl, hgrows, hlearned⟩
  refine (rest value middle).mono ?_ fun _ _ _ h => h
  rintro final later _ ⟨rfl, hgrows', hlast⟩
  refine ⟨rfl, fun refusal hr => hgrows' (hgrows hr), fun hgiven => hlast hgiven (hlearned ?_)⟩
  exact fun refusal hr => hgiven refusal (hgrows' hr)

-- Nothing new is to be shown of work that may only be refused.
theorem reading (given : RefusedCall → Prop) (hp : policy.OnlyRefuses)
    (h : (noting policy clock root).Works (.reading vault) work learned) :
    Learns given work vault learned := by
  intro notes
  refine (h.ends_reading_noting hp notes).mono ?_ fun _ _ _ h => h.1
  rintro value later _ ⟨hvalue, rfl, hgrows⟩
  exact ⟨rfl, hgrows, fun _ => hvalue⟩

theorem after_reading {next : α → Work (Session (σ × List RefusedCall)) β} {last : β → Prop}
    (hp : policy.OnlyRefuses) (first : (noting policy clock root).Works (.reading vault) work learned)
    (rest : ∀ value, learned value → Learns given (next value) vault last) :
    Learns given (work >>= next) vault last := by
  intro notes
  rw [ends_bind]
  refine (first.ends_reading_noting hp notes).mono ?_ fun _ _ _ h => h.1
  rintro value middle _ ⟨hvalue, rfl, hgrows⟩
  refine (rest value hvalue middle).mono ?_ fun _ _ _ h => h
  rintro final later _ ⟨rfl, hgrows', hlast⟩
  exact ⟨rfl, fun refusal hr => hgrows' (hgrows hr), hlast⟩

-- What is heard of the vault is so, unless the question was refused.
theorem perform (hp : policy.OnlyRefuses) {call : Call α} (hq : call.IsQuestion) :
    Learns given (liftM ((noting policy clock root).storage.perform call) :
      Work (Session (σ × List RefusedCall)) _) vault
      fun answer => answer = (vault.perform call).1 ∨
        ∃ fault, answer = .error fault ∧ given (call.refused fault) := by
  intro notes
  have hgrows : notes.2 ⊆ notes.2 := List.Subset.refl _
  refine ends_perform_noting hp (fun answer next hok => ?_) (fun fault next hfault => ?_)
    fun fault next => ?_
  · exact ⟨Vault.perform_question call hq, hgrows, fun _ => .inl hok.symm⟩
  · exact ⟨rfl, hgrows, fun _ => .inl hfault.symm⟩
  · refine ⟨rfl, List.subset_cons_self _ _, fun hgiven => .inr ⟨fault, rfl, ?_⟩⟩
    exact hgiven _ List.mem_cons_self

theorem mapM {items : List β} {step : β → Work (Session (σ × List RefusedCall)) α}
    {last : β → α → Prop} (h : ∀ item ∈ items, Learns given (step item) vault (last item)) :
    Learns given (items.mapM step) vault (List.Forall₂ last items) := by
  induction items with
  | nil => exact pure .nil
  | cons item items ih =>
      rw [List.mapM_cons]
      refine (h item List.mem_cons_self).bind fun value => ?_
      refine (ih fun other ho => h other (List.mem_cons_of_mem item ho)).bind fun values => ?_
      exact pure fun hvalues hvalue => .cons hvalue hvalues

end Learns

section

variable {vault : Vault} {notes : σ × List RefusedCall} {given : RefusedCall → Prop}
  {work : Work (Session (σ × List RefusedCall)) α} {learned : α → Prop}

theorem Ends.after_learning (first : Learns given work vault learned)
    {next : α → Work (Session (σ × List RefusedCall)) β} {done : β → σ × List RefusedCall → Vault → Prop}
    {failed : Failure → σ × List RefusedCall → Vault → Prop}
    (hnext : ∀ value later, notes.2 ⊆ later.2 →
      ((∀ refusal ∈ later.2, given refusal) → learned value) →
        Ends (next value) later vault done failed)
    (hfailed : ∀ failure later, failed failure later vault) :
    Ends (work >>= next) notes vault done failed := by
  rw [ends_bind]
  refine (first notes).mono ?_ ?_
  · rintro value later _ ⟨rfl, hgrows, hlearned⟩
    exact hnext value later hgrows hlearned
  · rintro failure later _ rfl
    exact hfailed failure later

-- The refusals that are given may be those that the notes hold in the end.
theorem Ends.of_given (holds : (RefusedCall → Prop) → α → Vault → Prop)
    {failed : Failure → σ × List RefusedCall → Vault → Prop}
    (h : ∀ given : RefusedCall → Prop, Ends work notes vault
      (fun value later after => (∀ refusal ∈ later.2, given refusal) → holds given value after) failed) :
    Ends work notes vault (fun value later after => holds (· ∈ later.2) value after) failed := by
  unfold Ends at h ⊢
  split
  · rename_i value later after hrun
    have hlast := h (· ∈ later.2)
    rw [hrun] at hlast
    exact hlast fun _ hr => hr
  · rename_i failure later after hrun
    have hlast := h fun _ => True
    rwa [hrun] at hlast

end

end NoteVault
