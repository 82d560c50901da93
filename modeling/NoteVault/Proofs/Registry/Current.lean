import NoteVault.Proofs.Registry.Listed

namespace NoteVault

open Registry Session

namespace Vault

-- Besides, an index that lists anything lists what the records say.
structure Current (vault : Vault) (root : String) : Prop extends vault.Sound root where
  lists : vault.Lists root ((vault.bases root).map KnowledgeBase.summary)

-- The record of a knowledge base was written and the index was not touched yet.
structure Puts (vault : Vault) (root : String) (base : KnowledgeBase) (after : Vault) : Prop where
  sound : after.Sound root
  put : IsPut base (vault.bases root) (after.bases root)
  index : after.indexEntries? root = vault.indexEntries? root

variable {vault middle after : Vault} {root name : String} {base : KnowledgeBase}

theorem Confined.indexEntries?_eq (h : vault.Confined (IsAside root) after) :
    after.indexEntries? root = vault.indexEntries? root := by
  rw [indexEntries?, indexEntries?, h.file _ fun haside => haside.2 rfl]

-- Work with the index leaves the records as they are.
theorem Sound.listed (hv : vault.Sound root) (hne : root ≠ "")
    (h : vault.Confined (· = indexPlace root) after)
    (hlists : after.Lists root ((vault.bases root).map KnowledgeBase.summary)) :
    after.Current root ∧ after.bases root = vault.bases root := by
  have hplaces : ∀ path, path = indexPlace root → ¬IsInRecord root path :=
    fun path hpath => hpath ▸ not_isInRecord_indexPlace root
  have hbases := h.bases_eq hv.tree hne hplaces
  refine ⟨⟨hv.confined h hplaces, ?_⟩, hbases⟩
  rw [hbases]
  exact hlists

namespace Current

variable (hv : vault.Current root) (hne : root ≠ "")
include hv hne

-- Work aside leaves the records and the index as they are.
theorem confined (h : vault.Confined (IsAside root) after) :
    after.Current root ∧ after.bases root = vault.bases root := by
  have hbases := h.bases_eq hv.tree hne fun _ haside => haside.1
  refine ⟨⟨hv.toSound.confined h fun _ haside => haside.1, ?_⟩, hbases⟩
  rw [hbases, Lists, h.indexEntries?_eq]
  exact hv.lists

theorem puts (hroot : Path.Clean root) (hbase : base.IsFaithful)
    (hfree : vault.Free root base.name base.subfolder) :
    vault.Puts root base (vault.withFile (recordPlace root base.name) base.record) := by
  exact ⟨hv.toSound.withFile hroot hne hbase hfree, hv.tree.isPut_withFile hroot hne hbase,
    vault.indexEntries?_withRecord root _ (KnowledgeBase.isName_of_checkName hbase.checked).1⟩

end Current

theorem Puts.confined (h : vault.Puts root base middle) (hne : root ≠ "")
    (hconfined : middle.Confined (IsAside root) after) : vault.Puts root base after := by
  refine ⟨h.sound.confined hconfined fun _ haside => haside.1, ?_, ?_⟩
  · rw [hconfined.bases_eq h.sound.tree hne fun _ haside => haside.1]
    exact h.put
  · rw [hconfined.indexEntries?_eq, h.index]

theorem current_empty (root : String) : Vault.empty.Current root :=
  ⟨sound_empty root, lists_of_missing rfl _⟩

end Vault

section

variable {σ : Type} {policy : Policy σ} {clock : σ → Time.Instant × σ} {root : String} {state : σ}
  {vault middle : Vault} {base : KnowledgeBase}

-- Once its record is written, a knowledge base is put on the list.
theorem Vault.Puts.leads_refreshIndex (h : vault.Puts root base middle) (hp : policy.Spares root)
    (hroot : Path.Clean root) (hne : root ≠ "") (hclock : ShowsPlainYears clock)
    (hv : vault.Current root) (attempts : Nat) :
    Leads ((inMemory policy clock root).refreshIndex base.summary attempts) state middle
      fun _ _ after => after.Current root ∧ after.ledger root = (vault.ledger root).put base.timeless := by
  have hbefore := hv.tree.byName_bases hne
  have hafter := h.sound.tree.byName_bases hne
  have hplain : ∀ base ∈ middle.bases root, base.createTime.IsPlain := fun base hb =>
    (h.sound.faithful base ((h.sound.tree.mem_bases hne).mp hb)).plain
  have hagain : putEntry base.summary ((middle.bases root).map KnowledgeBase.summary) =
      (middle.bases root).map KnowledgeBase.summary :=
    putEntry_summary hafter hafter (h.put.again hafter)
  have htakes : middle.Takes root base.summary ((middle.bases root).map KnowledgeBase.summary) := by
    intro known hknown hsome
    rw [h.index] at hknown
    rw [hv.lists known hknown hsome, putEntry_summary hbefore hafter h.put]
  refine ((NoteVault.leads_refreshIndex hp hroot hne hclock hplain hagain attempts h.sound.tree rfl
    htakes).and (Registry.Follows.leads_confined hp.refuses
      (follows_refreshIndex (indexes_index hroot hne middle) _ attempts))).mono ?_
  rintro _ _ after ⟨hlists, hconfined⟩
  obtain ⟨hcurrent, hbases⟩ := h.sound.listed hne hconfined hlists
  refine ⟨hcurrent, ?_⟩
  rw [Vault.ledger, Vault.ledger, hbases, put_timeless hbefore hafter h.put]

end

end NoteVault
