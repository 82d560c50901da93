import NoteVault.Proofs.Registry.Listed

namespace NoteVault

open Registry Session

variable {σ : Type}

namespace Policy

-- Others work with the index too: reads of it may be refused, and what is written there
-- may be refused or give way to any other text. It can be removed, though. Nothing is
-- asked of calls elsewhere.
structure Contends (policy : Policy σ) (root : String) : Prop where
  read : ∀ path, Path.normalize path = indexPlace root → policy.MayRefuse (.read path)
  delete : ∀ path, Path.normalize path = indexPlace root → policy.Passes (.delete path)

-- The judge who counts calls. At some of them reads of the index are refused, at others
-- a text takes the place of what is written there.
def contending (root : String) (reads writes : List Nat) (fault : StorageFault) (text : String) :
    Policy Nat where
  judge call turn :=
    (match call with
      | .read path =>
        if turn ∈ reads ∧ Path.normalize path = indexPlace root then .refuse fault
        else .perform (.read path)
      | .write path own mode =>
        if turn ∈ writes ∧ Path.normalize path = indexPlace root then
          .perform (.write path text .overwrite)
        else .perform (.write path own mode)
      | call => .perform call, turn + 1)

theorem contends_contending (root : String) (reads writes : List Nat) (fault : StorageFault)
    (text : String) : Contends (contending root reads writes fault text) root := by
  refine ⟨fun path _ turn => ?_, fun path _ turn => rfl⟩
  by_cases hturn : turn ∈ reads ∧ Path.normalize path = indexPlace root
  · exact .inr ⟨fault, if_pos hturn⟩
  · exact .inl (if_neg hturn)

end Policy

-- The index, if there is one, can be read and has the entry.
def Vault.Carries (vault : Vault) (root : String) (entry : Summary) : Prop :=
  ∀ text, vault.files.get? (indexPlace root) = some text →
    ∃ index, Index.ofDocument? text = some index ∧ entry ∈ index.entries

section

variable {vault : Vault} {root : String} {entry : Summary} {entries : List Summary}

theorem Vault.carries_of_missing (h : vault.files.get? (indexPlace root) = none) :
    vault.Carries root entry := by
  intro text hget
  rw [h] at hget
  cases hget

theorem Vault.carries_of_mem (h : vault.indexEntries? root = some entries) (hentry : entry ∈ entries) :
    vault.Carries root entry := by
  intro text hget
  rw [indexEntries?, hget, Option.bind_some, Option.map_eq_some_iff] at h
  obtain ⟨index, hindex, rfl⟩ := h
  exact ⟨index, hindex, hentry⟩

end

section

variable {policy : Policy σ} {clock : σ → Time.Instant × σ} {root : String} {state : σ} {vault : Vault}

variable (hp : policy.Contends root) (hroot : Path.Clean root) (hne : root ≠ "")
include hp hroot hne

-- The last thing done is a look at the index that shows the entry, or the removal of the
-- index. Whatever happened in between does not matter.
theorem leads_refreshIndex_carries (entry : Summary) (attempts : Nat) :
    Leads ((inMemory policy clock root).refreshIndex entry attempts) state vault fun _ _ after =>
      after.Carries root entry := by
  have hplace : Path.normalize (inMemory policy clock root).indexPath = indexPlace root :=
    indexPath_inMemory hroot hne
  have hdrop : ∀ state vault, Leads (inMemory policy clock root).dropIndex state vault
      fun _ _ after => after.Carries root entry := fun state vault =>
    (leads_dropIndex hroot hne (hp.delete _ hplace)).mono fun _ _ _ => Vault.carries_of_missing
  induction attempts generalizing state vault with
  | zero => exact hdrop state vault
  | succ attempts ih =>
      unfold refreshIndex
      refine .after_any fun known state vault => ?_
      cases known with
      | none => exact hdrop state vault
      | some entries =>
          refine .after_any fun _ state vault => ?_
          rw [leads_bind]
          refine (leads_isListed hroot hne (hp.read _ hplace) entry).mono ?_
          rintro listed next _ ⟨rfl, hlisted⟩
          split
          · rename_i hshown
            obtain ⟨entries, hentries, hentry⟩ := hlisted hshown
            exact leads_pure.mpr (Vault.carries_of_mem hentries hentry)
          · exact ih

-- A knowledge base that was added or updated is not lost from the index, whatever others
-- do with it meanwhile: the index that is left has its summary, or none is left.
theorem index_carries (state : σ) (vault : Vault) :
    (∀ wish, Ends ((inMemory policy clock root).add wish) state vault
      (fun base _ after => after.Carries root base.summary) fun _ _ _ => True) ∧
    ∀ name change, Ends ((inMemory policy clock root).update name change) state vault
      (fun base _ after => after.Carries root base.summary) fun _ _ _ => True := by
  -- in either operation the index is refreshed last
  have hlast : ∀ (base : KnowledgeBase) state vault,
      Ends ((liftM ((inMemory policy clock root).refreshIndex base.summary refreshAttempts) :
          Work (Session σ) Unit) >>= fun _ => pure base) state vault
        (fun base _ after => after.Carries root base.summary) fun _ _ _ => True := by
    intro base state vault
    rw [ends_bind, ends_liftM]
    exact (leads_refreshIndex_carries hp hroot hne base.summary _).mono
      fun _ _ _ h => (ends_pure base).mpr h
  refine ⟨fun wish => ?_, fun name change => ?_⟩
  · refine .after_any fun _ _ _ => .after_any fun folder _ _ => .after_any fun present _ _ => ?_
    split
    · exact .of_throw_bind trivial
    · refine .after_any fun bases _ _ => .after_any fun _ _ _ => .after_any fun shown _ _ => ?_
      exact .after_any fun _ _ _ => .after_any fun _ _ _ => .after_any fun _ _ _ => hlast _ _ _
  · rw [update_eq]
    refine .after_any fun base _ _ => .after_any fun base _ _ => ?_
    exact .after_any fun _ _ _ => hlast base _ _

end

-- Another writer overwrites the index at once, and the look at it that follows is refused.
theorem index_carries_contended :
    let registry := inMemory (.contending ".kb" [9] [8] .inputOutput "\x7b\x7d")
      (fun turn => (⟨⟨2024, 5, 17⟩, 8, 30, 0, 0⟩, turn)) ".kb"
    let wish : NewKnowledgeBase := ⟨"work", "Plans", "notes/work", ""⟩
    let change : KnowledgeBaseChange := ⟨some "Drafts", none, none⟩
    let later := stateAfter (registry.add wish).run 0 Vault.empty
    let reached := vaultAfter (registry.add wish).run 0 Vault.empty
    Ends (registry.add wish) 0 Vault.empty
      (fun base _ after => after.Carries ".kb" base.summary) (fun _ _ _ => True) ∧
    Ends (registry.update "work" change) later reached
      (fun base _ after => after.Carries ".kb" base.summary) (fun _ _ _ => True) := by
  intro registry wish change later reached
  have hp := Policy.contends_contending ".kb" [9] [8] .inputOutput "\x7b\x7d"
  have hroot : Path.Clean ".kb" := ⟨by decide, by decide⟩
  exact ⟨(index_carries hp hroot (by decide) 0 Vault.empty).1 wish,
    (index_carries hp hroot (by decide) later reached).2 "work" change⟩

-- When nothing that is written stays, the addition succeeds without an index.
example :
    let registry := inMemory (.contending ".kb" [9] (List.range 40) .inputOutput "")
      (fun turn => (⟨⟨2024, 5, 17⟩, 8, 30, 0, 0⟩, turn)) ".kb"
    (match (registry.add ⟨"work", "Plans", "notes/work", ""⟩).run 0 Vault.empty with
      | ((.ok _, _), after) => !after.hasFile ".kb/kb_cache.json"
      | _ => false) = true := by
  decide +kernel

end NoteVault
