import NoteVault.Proofs.Program.Settles
import NoteVault.Proofs.Registry.Filed

namespace NoteVault

open Registry Session

variable {σ α : Type}

-- A kind to which a knowledge base belongs, as its record shows it, when it is added, and
-- still belongs when it is updated.
structure Upholds (root : String) (clock : σ → Time.Instant × σ) (kind : KnowledgeBase → Prop) :
    Prop where
  added : ∀ {vault : Vault} {wish : NewKnowledgeBase} {base read : KnowledgeBase},
    vault.Admits root clock wish base → KnowledgeBase.ofRecord base.name base.record = .ok read →
      kind read
  updated : ∀ {base read : KnowledgeBase} {change : KnowledgeBaseChange} {folder : String},
    kind base → (folder = base.subfolder ∨ ∃ raw, Path.folder raw = .ok folder) →
      KnowledgeBase.ofRecord base.name { change.applied base with subfolder := folder }.record =
        .ok read → kind read

-- In such a vault, besides, all knowledge bases on record are of the kind.
structure Vault.FiledAs (vault : Vault) (root : String) (kind : KnowledgeBase → Prop) : Prop
    extends vault.Filed root where
  kind : ∀ base, vault.Keeps root base → kind base

theorem filedAs_empty (root : String) (kind : KnowledgeBase → Prop) :
    Vault.empty.FiledAs root kind := by
  refine ⟨filed_empty root, fun base hb => ?_⟩
  obtain ⟨-, text, hget, -⟩ := hb
  cases hget

section

variable {root name folder : String} {vault middle : Vault} {base : KnowledgeBase}

-- Room for a knowledge base is made away from the records.
theorem Vault.Filed.keeps_of_makesRoom (hv : vault.Filed root)
    (h : vault.MakesRoom root base folder middle) (other : KnowledgeBase) :
    middle.Keeps root other ↔ vault.Keeps root other := by
  refine h.confined.keeps_iff (fun path hpath => ?_) other
  rw [hpath]
  exact not_isRecordPlace_of_apart (hv.overlap_of_makesRoom h) (Path.isWithin_self _)

end

section

variable {clock : σ → Time.Instant × σ} {root name : String} {state : σ} {vault : Vault}
  {kind : KnowledgeBase → Prop}

variable (hroot : Path.Clean root) (hne : root ≠ "")
include hroot hne

-- Work that writes no record leaves the knowledge bases on record as they are.
theorem ends_keeps_iff
    (hreserved : ∀ base, vault.Keeps root base → Path.overlap base.subfolder root = false)
    {operation : Operation α} (hkind : ¬operation.WritesRecord) :
    Ends ((inMemory .allowing clock root).carryOut operation) state vault
      (fun _ _ after => ∀ base, after.Keeps root base ↔ vault.Keeps root base)
      fun _ _ after => ∀ base, after.Keeps root base ↔ vault.Keeps root base := by
  have hindex : ¬IsRecordPlace root (Path.normalize
      (inMemory (.allowing : Policy σ) clock root).indexPath) := by
    rw [indexPath_inMemory hroot hne]
    exact not_isRecordPlace_indexPlace root
  refine (Works.ends_confined Policy.onlyRefuses_allowing (works_confined hroot hne hkind
    (fun _ _ => Vault.grants_of_reserved hreserved) fun _ => hindex)).mono ?_ ?_
  · exact fun _ _ after h => h.2.keeps_iff fun _ hp => hp
  · exact fun _ _ after h => h.keeps_iff fun _ hp => hp

theorem ends_add_kind (hu : Upholds root clock kind) (hv : vault.FiledAs root kind)
    (wish : NewKnowledgeBase) :
    Ends ((inMemory .allowing clock root).add wish) state vault
      (fun _ _ after => ∀ base, after.Keeps root base → kind base)
      fun _ _ after => ∀ base, after.Keeps root base → kind base := by
  have hadds : ∀ {written : KnowledgeBase} {after : Vault}, vault.Adds root clock wish written after →
      ∀ base, after.Keeps root base → kind base := by
    intro written after h base hb
    rcases h.records.keeps_cases h.not_isRecordPlace h.isName hb with ⟨-, hread⟩ | ⟨-, hb⟩
    · exact hu.added h.admits hread
    · exact hv.kind base hb
  refine (ends_add_record hroot hne hv.tree wish).mono ?_ ?_
  · exact fun _ _ after h => hadds h
  · rintro failure _ after (rfl | ⟨written, h⟩)
    · exact hv.kind
    · exact hadds h

theorem ends_update_kind (hu : Upholds root clock kind) (hv : vault.FiledAs root kind)
    (change : KnowledgeBaseChange) :
    Ends ((inMemory .allowing clock root).update name change) state vault
      (fun _ _ after => ∀ base, after.Keeps root base → kind base)
      fun _ _ after => ∀ base, after.Keeps root base → kind base := by
  refine (ends_update_record hroot hne hv.tree change).mono ?_ ?_
  · rintro written _ after ⟨old, folder, middle, -, hmakes, hfiles, hrecords, hwritten, hfolder⟩ base hb
    have hisname := hmakes.keeps.1
    have hname : written.name = old.name := by rw [hwritten, KnowledgeBaseChange.applied]
    have hplaces : ∀ path, path = indexPlace root → ¬IsRecordPlace root path := by
      rintro _ rfl
      exact not_isRecordPlace_indexPlace root
    rw [← hname] at hisname
    rcases hrecords.keeps_cases hplaces hisname hb with ⟨-, hread⟩ | ⟨-, hb⟩
    · rw [hname, hwritten] at hread
      refine hu.updated (hv.kind old hmakes.keeps) ?_ hread
      exact hfolder.imp And.right (Exists.imp fun _ => And.right)
    · exact hv.kind base ((Vault.keeps_of_files_eq hfiles base).mp hb)
  · rintro failure _ after (rfl | ⟨old, folder, -, hmakes⟩) base hb
    · exact hv.kind base hb
    · exact hv.kind base ((hv.keeps_of_makesRoom hmakes base).mp hb)

-- Whatever is done, and whether it succeeds or not, all knowledge bases on record stay of
-- the kind.
theorem ends_filedAs (hu : Upholds root clock kind) (hv : vault.FiledAs root kind)
    {operation : Operation α} (hline : ' ' ∉ root.toList ∨ operation.AsksOneLine) :
    Ends ((inMemory .allowing clock root).carryOut operation) state vault
      (fun _ _ after => after.FiledAs root kind) fun _ _ after => after.FiledAs root kind := by
  have hends : Ends ((inMemory .allowing clock root).carryOut operation) state vault
      (fun _ _ after => ∀ base, after.Keeps root base → kind base)
      fun _ _ after => ∀ base, after.Keeps root base → kind base := by
    by_cases hkind : operation.WritesRecord
    · cases operation with
      | add wish => exact ends_add_kind hroot hne hu hv wish
      | update name change => exact ends_update_kind hroot hne hu hv change
      | _ => exact hkind.elim
    · refine (ends_keeps_iff hroot hne hv.reserved hkind).mono ?_ ?_
      · exact fun _ _ after h base hb => hv.kind base ((h base).mp hb)
      · exact fun _ _ after h base hb => hv.kind base ((h base).mp hb)
  refine ((ends_filed hroot hne hv.toFiled hline).and hends).mono ?_ ?_
  · exact fun _ _ after h => ⟨h.1, h.2⟩
  · exact fun _ _ after h => ⟨h.1, h.2⟩

theorem filedAs_carryOutAll (hu : Upholds root clock kind) (hv : vault.FiledAs root kind)
    (orders : List Order) (hlines : ' ' ∉ root.toList ∨ ∀ order ∈ orders, order.2.AsksOneLine) :
    (vaultAfter ((inMemory .allowing clock root).carryOutAll orders) state vault).FiledAs root kind := by
  induction orders generalizing state vault with
  | nil => exact hv
  | cons order orders ih =>
      rw [List.forall_mem_cons] at hlines
      rw [carryOutAll, vaultAfter_bind]
      exact ih (ends_filedAs hroot hne hu hv (hlines.imp_right And.left)).vaultAfter
        (hlines.imp_right And.right)

end

end NoteVault
