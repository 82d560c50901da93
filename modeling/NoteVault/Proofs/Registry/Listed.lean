import NoteVault.Proofs.Registry.Spared

namespace NoteVault

open Registry Session

namespace Vault

-- The entries of the index, if it can be read.
def indexEntries? (vault : Vault) (root : String) : Option (List Summary) :=
  (vault.files.get? (indexPlace root)).bind fun text => (Index.ofDocument? text).map Index.entries

-- The index is not where records are.
theorem indexEntries?_withRecord (vault : Vault) (root text : String) {name : String}
    (hname : Path.IsName name.toList) :
    (vault.withFile (recordPlace root name) text).indexEntries? root = vault.indexEntries? root := by
  rw [indexEntries?, indexEntries?, get?_withFile, if_neg]
  exact fun hplace => not_isRecordPlace_indexPlace root ⟨name, hname, hplace⟩

-- An index that has entries has these.
def Lists (vault : Vault) (root : String) (entries : List Summary) : Prop :=
  ∀ known, vault.indexEntries? root = some known → known ≠ [] → known = entries

theorem get?_delete {vault : Vault} {path : String} (hclean : Path.Clean path) :
    (vault.perform (.delete path)).2.files.get? path = none := by
  rw [perform_of_clean (by simpa [Call.paths] using hclean), answer]
  split
  · rw [get?_withoutFile, if_pos rfl]
  · rename_i hmissing
    exact hasFile_eq_false_iff.mp (by simpa using hmissing)

-- An index that has entries has these once the entry is put among them.
def Takes (vault : Vault) (root : String) (entry : Summary) (entries : List Summary) : Prop :=
  ∀ known, vault.indexEntries? root = some known → known ≠ [] → putEntry entry known = entries

theorem lists_of_missing {vault : Vault} {root : String} (h : vault.files.get? (indexPlace root) = none)
    (entries : List Summary) : vault.Lists root entries := by
  intro known hknown
  rw [indexEntries?, h] at hknown
  cases hknown

end Vault

section

variable {σ : Type} {policy : Policy σ} {clock : σ → Time.Instant × σ} {root : String} {state : σ}
  {vault : Vault} {entry : Summary} {entries : List Summary}

theorem createTime_summaries {bases : List KnowledgeBase}
    (h : ∀ base ∈ bases, base.createTime.IsPlain) :
    ∀ entry ∈ bases.map KnowledgeBase.summary, entry.createTime.IsPlain := by
  intro entry hentry
  obtain ⟨base, hbase, rfl⟩ := List.mem_map.mp hentry
  exact h base hbase

theorem Registry.Follows.leads_confined {α : Type} {program : Session σ α} {post : α → Prop}
    {places : String → Prop} (hp : policy.OnlyRefuses)
    (h : (inMemory policy clock root).Follows (.confined vault places) program post) :
    Leads program state vault fun _ _ after => vault.Confined places after :=
  ends_liftM.mp ((Works.ends_confined hp (.lift h)).mono (fun _ _ _ h => h.2) fun _ _ _ h => h)

section

variable (hroot : Path.Clean root) (hne : root ≠ "")
include hroot hne

-- An index that is loaded is the one in the vault.
theorem leads_loadIndex (hread : policy.MayRefuse (.read (inMemory policy clock root).indexPath)) :
    Leads (inMemory policy clock root).loadIndex state vault fun found _ after =>
      after = vault ∧ (found = none ∨ found = vault.indexEntries? root) := by
  unfold loadIndex
  rw [leads_bind]
  refine leads_of_mayRefuse hread (fun text next hok => ?_) fun fault next => ?_
  · have hget := (Vault.read_ok hok).2
    rw [indexPath_inMemory hroot hne] at hget
    rw [Vault.perform_question _ (by trivial)]
    refine leads_pure.mpr ⟨rfl, .inr ?_⟩
    rw [Vault.indexEntries?, hget, Option.bind_some]
  · exact leads_pure.mpr ⟨rfl, .inl rfl⟩

-- An entry that is found listed is in the index.
theorem leads_isListed (hread : policy.MayRefuse (.read (inMemory policy clock root).indexPath))
    (entry : Summary) :
    Leads ((inMemory policy clock root).isListed entry) state vault fun listed _ after =>
      after = vault ∧ (listed = true → ∃ entries, vault.indexEntries? root = some entries ∧
        entry ∈ entries) := by
  unfold isListed
  rw [leads_bind]
  refine (leads_loadIndex hroot hne hread).mono fun found _ after ⟨hafter, hfound⟩ =>
    leads_pure.mpr ⟨hafter, fun hlisted => ?_⟩
  rw [List.contains_iff_mem] at hlisted
  cases found with
  | none => cases hlisted
  | some entries => exact ⟨entries, (hfound.resolve_left (by simp)).symm, hlisted⟩

-- Removing the index does not fail, except where there is none.
theorem leads_dropIndex (hdrop : policy.Passes (.delete (inMemory policy clock root).indexPath)) :
    Leads (inMemory policy clock root).dropIndex state vault fun _ _ after =>
      after.files.get? (indexPlace root) = none := by
  unfold dropIndex
  rw [leads_bind]
  refine leads_of_passes hdrop fun next => leads_pure.mpr ?_
  rw [indexPath, root_inMemory, hroot.normal]
  exact Vault.get?_delete (clean_indexPlace hroot hne)

end

section

variable (hp : policy.Spares root) (hroot : Path.Clean root) (hne : root ≠ "")
include hp hroot hne

-- An index that is saved has these entries, or there is none.
theorem leads_saveIndex (hclock : ShowsPlainYears clock)
    (hentries : ∀ entry ∈ entries, entry.createTime.IsPlain) :
    Leads ((inMemory policy clock root).saveIndex entries) state vault fun _ _ after =>
      after.Lists root entries := by
  unfold saveIndex
  rw [leads_bind]
  refine leads_now ?_
  rw [leads_bind]
  refine leads_of_mayRefuse (hp.refuses _) (fun _ next hok => leads_pure.mpr ?_) fun fault next => ?_
  · obtain ⟨hvalid, hyear⟩ := hclock state
    have hread : Index.ofDocument? (Index.mk (clock state).1 entries).document =
        some ⟨(clock state).1, entries⟩ := Index.ofDocument?_document ⟨hvalid, hyear⟩ hentries
    rw [(Vault.write_ok hok).1, indexPath_inMemory hroot hne]
    intro known hknown _
    rw [Vault.indexEntries?, Vault.get?_withFile, if_pos rfl, Option.bind_some,
      hread] at hknown
    exact (Option.some.inj hknown).symm
  · exact (leads_dropIndex hroot hne (hp.passes _ rfl)).mono fun _ _ _ h => Vault.lists_of_missing h entries

-- A change starts from the entries of the index, or from the records.
theorem leads_knownEntries (hv : vault.IsTree) :
    Leads (inMemory policy clock root).knownEntries state vault fun known _ after =>
      after = vault ∧ ∃ entries, known = some entries ∧
        (entries ≠ [] ∧ vault.indexEntries? root = some entries ∨
          entries = (vault.bases root).map KnowledgeBase.summary) := by
  unfold knownEntries
  rw [leads_bind]
  refine (leads_loadIndex hroot hne (hp.refuses _)).mono ?_
  rintro found next after ⟨rfl, hfound⟩
  split
  · rename_i entry entries
    refine leads_pure.mpr ⟨rfl, _, rfl, .inl ⟨List.cons_ne_nil _ _, ?_⟩⟩
    exact (hfound.resolve_left (by simp)).symm
  · rw [leads_bind, leads_run]
    refine (settles_scan hp hroot hne hv next).mono ?_ ?_
    · rintro bases _ _ ⟨⟨⟩, rfl⟩
      exact leads_pure.mpr ⟨rfl, _, rfl, .inr rfl⟩
    · rintro _ _ _ ⟨h, -⟩
      cases h

-- Work with the index changes nothing else.
omit hp in
theorem indexes_index (vault : Vault) :
    (Contract.confined vault (· = indexPlace root)).Indexes (inMemory policy clock root) :=
  indexes_confined (indexPath_inMemory hroot hne)

-- However often it is tried, and whatever is refused, the index ends up with the entries
-- that it should have, or there is none.
theorem leads_refreshIndex (hclock : ShowsPlainYears clock) {bases : List KnowledgeBase}
    (hplain : ∀ base ∈ bases, base.createTime.IsPlain)
    (hentry : putEntry entry (bases.map KnowledgeBase.summary) = bases.map KnowledgeBase.summary)
    (attempts : Nat) (hv : vault.IsTree) (hbases : vault.bases root = bases)
    (htakes : vault.Takes root entry (bases.map KnowledgeBase.summary)) :
    Leads ((inMemory policy clock root).refreshIndex entry attempts) state vault fun _ _ after =>
      after.Lists root (bases.map KnowledgeBase.summary) := by
  induction attempts generalizing state vault with
  | zero =>
      exact (leads_dropIndex hroot hne (hp.passes _ rfl)).mono fun _ _ _ h => Vault.lists_of_missing h _
  | succ attempts ih =>
      unfold refreshIndex
      rw [leads_bind]
      refine (leads_knownEntries hp hroot hne hv).mono ?_
      rintro _ next _ ⟨rfl, known, rfl, hknown⟩
      have hput : putEntry entry known = bases.map KnowledgeBase.summary := by
        rcases hknown with ⟨hsome, hknown⟩ | rfl
        · exact htakes known hknown hsome
        · rw [hbases, hentry]
      simp only [hput]
      rw [leads_bind]
      refine ((leads_saveIndex hp hroot hne hclock (createTime_summaries hplain)).and
        (Registry.Follows.leads_confined hp.refuses (follows_saveIndex (indexes_index hroot hne _) _))).mono ?_
      rintro _ next after ⟨hlists, hconfined⟩
      rw [leads_bind]
      refine (leads_isListed hroot hne (hp.refuses _) entry).mono ?_
      rintro listed next _ ⟨rfl, -⟩
      split
      · exact leads_pure.mpr hlists
      · refine ih (hconfined.tree hv) ?_ fun known hsome hne => ?_
        · rw [hconfined.bases_eq hv hne fun path hpath => hpath ▸ not_isInRecord_indexPlace root, hbases]
        · rw [hlists known hsome hne, hentry]

-- What is listed is what the records say, and so is what is listed later.
theorem ends_list_lists (hclock : ShowsPlainYears clock) (hv : vault.IsTree)
    (hplain : ∀ base ∈ vault.bases root, base.createTime.IsPlain)
    (hlists : vault.Lists root ((vault.bases root).map KnowledgeBase.summary)) :
    Ends (inMemory policy clock root).list state vault
      (fun summaries _ after => summaries = (vault.bases root).map KnowledgeBase.summary ∧
        after.Lists root ((vault.bases root).map KnowledgeBase.summary))
      fun _ _ _ => False := by
  unfold Registry.list
  rw [ends_bind, ends_liftM]
  refine (leads_loadIndex hroot hne (hp.refuses _)).mono ?_
  rintro found next _ ⟨rfl, hfound⟩
  split
  · exact (ends_pure _).mpr
      ⟨hlists _ (hfound.resolve_left (by simp)).symm (List.cons_ne_nil _ _), hlists⟩
  · refine (settles_scan hp hroot hne hv).ends_bind fun next => ?_
    dsimp only
    split
    · rw [ends_bind, ends_liftM]
      refine (leads_saveIndex hp hroot hne hclock (createTime_summaries hplain)).mono ?_
      exact fun _ _ _ h => (ends_pure _).mpr ⟨rfl, h⟩
    · exact (ends_pure _).mpr ⟨rfl, hlists⟩

end

end

end NoteVault
