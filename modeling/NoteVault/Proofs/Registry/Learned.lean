import NoteVault.Proofs.Program.Noting
import NoteVault.Proofs.Registry.Scan

namespace NoteVault

open Registry Session

-- The notes keep the record of the name from a scan: the root was said to be missing,
-- or the record was not to be read.
def HidesRecord (given : RefusedCall → Prop) (root name : String) : Prop :=
  (∃ path, given ((Call.list root).refused (.notFound path))) ∨
    ∃ fault, given ((Call.read (recordPlace root name)).refused fault)

theorem exists_of_forall₂ {α β : Type} {rel : α → β → Prop} {items : List α} {values : List β}
    (h : List.Forall₂ rel items values) {item : α} (hm : item ∈ items) :
    ∃ value ∈ values, rel item value := by
  induction h with
  | nil => cases hm
  | cons hfirst hrest ih =>
      rcases List.mem_cons.mp hm with rfl | hm
      · exact ⟨_, List.mem_cons_self, hfirst⟩
      · obtain ⟨value, hvalue, hrel⟩ := ih hm
        exact ⟨value, List.mem_cons_of_mem _ hvalue, hrel⟩

section

variable {σ : Type} {policy : Policy σ} {clock : σ → Time.Instant × σ} {root : String}
  {vault : Vault} {given : RefusedCall → Prop}

-- A folder is listed as it is, unless it was said to be missing.
theorem learns_listingOf (hp : policy.OnlyRefuses) (hv : vault.IsTree) {folder : String}
    (hclean : Path.Clean folder) (hne : folder ≠ "") :
    Learns given (listingOf (noting policy clock root).storage folder) vault fun listing =>
      listing = vault.listing folder ∨
        listing = .empty ∧ ∃ path, given ((Call.list folder).refused (.notFound path)) := by
  have hlist : (vault.perform (.list folder)).1 =
      if vault.hasFolder folder then .ok (vault.listing folder) else .error (.notFound folder) := by
    rw [Vault.perform_of_clean (by simpa [Call.paths] using hclean), Vault.answer,
      String.isEmpty_eq_false_iff.mpr hne, Bool.false_or]
    split <;> rfl
  refine (Learns.perform hp (by trivial)).bind fun answer => ?_
  rw [hlist]
  split
  · rename_i listing
    refine .pure ?_
    rintro (hheard | ⟨_, hheard, -⟩)
    · split at hheard
      · exact .inl (Except.ok.inj hheard)
      · cases hheard
    · cases hheard
  · rename_i path
    refine .pure ?_
    rintro (hheard | ⟨_, hheard, hgiven⟩)
    · split at hheard
      · cases hheard
      · rename_i hmissing
        exact .inl (hv.listing_of_missing hne (by simpa using hmissing)).symm
    · obtain rfl := Except.error.inj hheard
      exact .inr ⟨rfl, path, hgiven⟩
  · exact .throw _

theorem learns_recordIn (hp : policy.OnlyRefuses) (folder : String) :
    Learns given ((noting policy clock root).recordIn? folder) vault fun found =>
      found = vault.recordIn? folder ∨
        ∃ fault, given ((Call.read (Path.below folder recordName)).refused fault) := by
  refine (Learns.perform hp (by trivial)).bind fun answer => ?_
  unfold Vault.recordIn?
  split
  · refine .pure ?_
    rintro (hheard | ⟨_, hheard, -⟩)
    · exact .inl (by rw [← hheard])
    · cases hheard
  · refine .pure ?_
    rintro (hheard | ⟨fault, -, hgiven⟩)
    · exact .inl (by rw [← hheard])
    · exact .inr ⟨fault, hgiven⟩

theorem mem_of_learned (hv : vault.IsTree) (hne : root ≠ "") {found : List (Option KnowledgeBase)}
    (hfound : List.Forall₂ (fun folder found => found = vault.recordIn? folder ∨
      ∃ fault, given ((Call.read (Path.below folder recordName)).refused fault))
        (vault.listing root).folders found)
    {base : KnowledgeBase} (hb : vault.Keeps root base) (hshown : ¬HidesRecord given root base.name) :
    base ∈ found.filterMap id := by
  obtain ⟨hname, text, hget, hread⟩ := hb
  have hfile := Vault.hasFile_of_get? hget
  have hrecord : vault.recordIn? (Path.below root base.name) = some base := by
    refine Vault.recordIn?_eq_some.mpr ⟨text, ?_, ?_⟩
    · exact (Vault.read_eq_ok (hv.file_clean _ hfile)).mpr hget
    · rwa [Path.fileName_below hname]
  obtain ⟨value, hvalue, hheard⟩ :=
    exists_of_forall₂ hfound (hv.mem_folders_of_record hne hname hfile)
  rw [HidesRecord, recordPlace, not_or] at hshown
  rw [hheard.resolve_right hshown.2] at hvalue
  exact List.mem_filterMap.mpr ⟨_, hvalue, (id_eq _).trans hrecord⟩

-- A scan finds every knowledge base on record whose record the notes do not hide.
theorem learns_scan (given : RefusedCall → Prop) (hp : policy.OnlyRefuses) (hv : vault.IsTree)
    (hroot : Path.Clean root) (hne : root ≠ "") :
    Learns given (noting policy clock root).scan vault fun bases => ∀ base, vault.Keeps root base →
      ¬HidesRecord given root base.name → base ∈ bases := by
  have hlisting : Learns given (listingOf (noting policy clock root).storage root) vault _ :=
    learns_listingOf hp hv hroot hne
  unfold Registry.scan
  rw [root_inMemory, hroot.normal]
  refine hlisting.bind fun listing => ?_
  refine (Learns.mapM fun folder _ => learns_recordIn hp folder).bind fun found => ?_
  refine Learns.pure ?_
  intro hfound hlisting base hb hshown
  rw [List.mem_mergeSort]
  obtain rfl := hlisting.resolve_right fun h => hshown (.inl h.2)
  exact mem_of_learned hv hne hfound hb hshown

end

end NoteVault
