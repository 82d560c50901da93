import NoteVault.Proofs.Registry.DocumentPlace
import NoteVault.Proofs.Registry.Exclusive
import NoteVault.Proofs.Registry.Gate

namespace NoteVault

open Registry Session

-- In such a vault every constraint is in the document that its subfolder names, and the
-- knowledge bases keep away from the records, as their records show them.
structure Vault.Filed (vault : Vault) (root : String) : Prop where
  tree : vault.IsTree
  reserved : ∀ base, vault.Keeps root base → Path.overlap base.subfolder root = false
  line : ∀ base, vault.Keeps root base → IsSingleLine base.subfolder
  place : ∀ name : String, Path.IsName name.toList → ∀ path text constraint,
    vault.files.get? path = some text → Path.parent path = constraintsPlace root name →
      Constraint.ofDocument name text = .ok constraint →
        path = constraintPlace root name constraint.subfolder

theorem filed_empty (root : String) : Vault.empty.Filed root := by
  refine ⟨Vault.isTree_empty, fun base hb => ?_, fun base hb => ?_, fun _ _ _ _ _ hget => ?_⟩
  · obtain ⟨-, text, hget, -⟩ := hb
    cases hget
  · obtain ⟨-, text, hget, -⟩ := hb
    cases hget
  · cases hget

section

variable {root name folder : String} {places : String → Prop} {vault after : Vault}
  {base : KnowledgeBase}

namespace Vault.Filed

-- Work elsewhere leaves the constraints where they are.
theorem confined (hv : vault.Filed root) (h : vault.Confined places after)
    (hplaces : ∀ path, places path → ¬IsRecordPlace root path ∧ ¬IsDocumentPlace root path) :
    after.Filed root := by
  have hkeeps := h.keeps_iff fun path hpath => (hplaces path hpath).1
  refine ⟨h.tree hv.tree, fun base hb => hv.reserved base ((hkeeps base).mp hb),
    fun base hb => hv.line base ((hkeeps base).mp hb), ?_⟩
  intro name hname path text constraint hget hparent hread
  have hsame := h.file path fun hplace => (hplaces path hplace).2 ⟨name, hname, hparent⟩
  exact hv.place name hname path text constraint (hsame ▸ hget) hparent hread

-- Work for a knowledge base on its notes is work elsewhere.
theorem lends (hv : vault.Filed root) :
    vault.Lends root name fun path => ¬IsRecordPlace root path ∧ ¬IsDocumentPlace root path where
  record hname h := h.1 ⟨name, (KnowledgeBase.isName_of_checkName hname).1, rfl⟩
  notes base hb _ _ hw := ⟨not_isRecordPlace_of_apart (hv.reserved base hb) hw,
    not_isDocumentPlace_of_apart (hv.reserved base hb) hw⟩

-- Room for a knowledge base is made away from the records.
theorem overlap_of_makesRoom (hv : vault.Filed root) (h : vault.MakesRoom root base folder after) :
    Path.overlap folder root = false := by
  rcases h.free with rfl | hfree
  · exact hv.reserved base h.keeps
  · exact hfree.reserved

theorem makesRoom (hv : vault.Filed root) (h : vault.MakesRoom root base folder after) :
    after.Filed root := by
  have hreserved := hv.overlap_of_makesRoom h
  refine hv.confined h.confined ?_
  rintro path rfl
  exact ⟨not_isRecordPlace_of_apart hreserved (Path.isWithin_self _),
    not_isDocumentPlace_of_apart hreserved (Path.isWithin_self _)⟩

-- A record may be written for a folder away from the records.
theorem withRecord (hv : vault.Filed root) (written : KnowledgeBase)
    (hclean : Path.Clean (recordPlace root written.name)) (hname : Path.IsName written.name.toList)
    (hnormal : Path.normalize written.subfolder = written.subfolder)
    (hreserved : Path.overlap written.subfolder root = false)
    (hline : ' ' ∉ root.toList ∨ IsSingleLine written.subfolder) :
    (vault.withFile (recordPlace root written.name) written.record).Filed root := by
  have hshown : ∀ {read : KnowledgeBase},
      KnowledgeBase.ofRecord written.name written.record = .ok read →
        read.subfolder = singleLine written.subfolder := by
    intro read hread
    rw [KnowledgeBase.subfolder_of_ofRecord_record hread, normalize_singleLine, hnormal]
  refine ⟨hv.tree.withFile hclean _, fun base hb => ?_, fun base hb => ?_, ?_⟩
  · rcases keeps_withFile_cases written hname hb with ⟨-, hread⟩ | ⟨-, hb⟩
    · rw [hshown hread]
      exact overlap_singleLine hreserved hline
    · exact hv.reserved base hb
  · rcases keeps_withFile_cases written hname hb with ⟨-, hread⟩ | ⟨-, hb⟩
    · rw [hshown hread]
      exact isSingleLine_singleLine _
    · exact hv.line base hb
  · intro other hother path text constraint hget hparent hread
    rw [get?_withFile, if_neg] at hget
    · exact hv.place other hother path text constraint hget hparent hread
    · rintro rfl
      exact not_isDocumentPlace_recordPlace hname ⟨other, hother, hparent⟩

-- A constraint may be written in the document that its subfolder names. The document of
-- another constraint gives way.
theorem withConstraint (hv : vault.Filed root) (constraint : Constraint)
    (hclean : Path.Clean (constraintPlace root name constraint.subfolder))
    (hname : Path.IsName name.toList)
    (hnormal : Path.normalize constraint.subfolder = constraint.subfolder) :
    (vault.withFile (constraintPlace root name constraint.subfolder) constraint.document).Filed
      root := by
  have hconfined := vault.confined_withFile hclean constraint.document
  have hplaces : ∀ path, path = constraintPlace root name constraint.subfolder →
      ¬IsRecordPlace root path := by
    rintro path rfl
    exact not_isRecordPlace_constraintPlace hname _
  have hkeeps := hconfined.keeps_iff hplaces
  refine ⟨hconfined.tree hv.tree, fun base hb => hv.reserved base ((hkeeps base).mp hb),
    fun base hb => hv.line base ((hkeeps base).mp hb), ?_⟩
  intro other hother path text found hget hparent hread
  rw [get?_withFile] at hget
  split at hget
  · rename_i hpath
    obtain rfl := Option.some.inj hget
    rw [hpath, parent_constraintPlace] at hparent
    obtain rfl := constraintsPlace_injective hname hother hparent
    rw [hpath, constraintPlace_eq_iff, Constraint.plainName_of_ofDocument hnormal hread]
  · exact hv.place other hother path text found hget hparent hread

end Vault.Filed

-- The constraint of a knowledge base on record is put into its document, and nothing
-- else is changed.
structure Vault.Constrains (vault : Vault) (root : String) (constraint : Constraint)
    (after : Vault) : Prop where
  checked : KnowledgeBase.checkName constraint.knowledgeBase = .ok ()
  kept : ∃ base, base.name = constraint.knowledgeBase ∧ vault.Keeps root base
  normal : Path.normalize constraint.subfolder = constraint.subfolder
  after : after = vault.withFile
    (constraintPlace root constraint.knowledgeBase constraint.subfolder) constraint.document

theorem not_isDocumentPlace_furniture {path : String} (hroot : Path.Clean root) (hne : root ≠ "")
    (hname : KnowledgeBase.checkName base.name = .ok ()) (hclean : Path.Clean base.subfolder)
    (hreserved : Path.overlap base.subfolder root = false) (h : IsFurniture root base path) :
    ¬IsDocumentPlace root path := by
  rcases h with rfl | rfl | rfl
  · rw [← constraintsPlace, (clean_constraintsPlace hroot hne hname).normal]
    exact not_isDocumentPlace_constraintsPlace (KnowledgeBase.isName_of_checkName hname).1
  · rw [hclean.normal]
    exact not_isDocumentPlace_of_apart hreserved (Path.isWithin_self _)
  · exact not_isDocumentPlace_indexPlace root

end

section

variable {σ α : Type} {clock : σ → Time.Instant × σ} {root name : String} {state : σ} {vault : Vault}

variable (hroot : Path.Clean root) (hne : root ≠ "")
include hroot hne

-- What is found under a name is on record.
theorem keeps_of_get {base : KnowledgeBase}
    (hbase : ((inMemory .allowing clock root).get name).run state vault =
      ((.ok (some base), state), vault)) :
    KnowledgeBase.checkName name = .ok () ∧ base.name = name ∧ vault.Keeps root base := by
  have hends : Ends ((inMemory .allowing clock root).require name) state vault _ _ :=
    ends_require Policy.onlyRefuses_allowing hroot hne
  rw [ends_of_run_ok (run_require hbase)] at hends
  exact hends.2

-- A knowledge base is found under its name exactly when it is on record.
theorem run_get_iff {base : KnowledgeBase} :
    ((inMemory .allowing clock root).get name).run state vault = ((.ok (some base), state), vault) ↔
      KnowledgeBase.checkName name = .ok () ∧ base.name = name ∧ vault.Keeps root base := by
  refine ⟨keeps_of_get hroot hne, ?_⟩
  rintro ⟨hname, rfl, hb⟩
  exact run_get clock state hroot.normal hname (clean_recordPlace_of_checkName hroot hne hname) hb

theorem Vault.Filed.constrains (hv : vault.Filed root) {constraint : Constraint} {after : Vault}
    (h : vault.Constrains root constraint after) : after.Filed root := by
  obtain ⟨hname, -, hnormal, rfl⟩ := h
  exact hv.withConstraint constraint (clean_constraintPlace hroot hne hname _)
    (KnowledgeBase.isName_of_checkName hname).1 hnormal

theorem ends_add_filed (hv : vault.Filed root) {wish : NewKnowledgeBase}
    (hline : ' ' ∉ root.toList ∨ IsSingleLine wish.subfolder) :
    Ends ((inMemory .allowing clock root).add wish) state vault
      (fun _ _ after => after.Filed root) fun _ _ after => after.Filed root := by
  have hadds : ∀ {base : KnowledgeBase} {after : Vault}, vault.Adds root clock wish base after →
      after.Filed root := by
    intro base after h
    obtain ⟨heq, hclean, -⟩ := Path.folder_eq_ok h.admits.folder
    have hshown : ' ' ∉ root.toList ∨ IsSingleLine base.subfolder :=
      hline.imp_right fun hwish => heq ▸ isSingleLine_normalize hwish
    refine (hv.withRecord base (clean_recordPlace_of_checkName hroot hne h.admits.checked) h.isName
      hclean.normal h.admits.free.reserved hshown).confined h.records fun path hpath => ⟨?_, ?_⟩
    · exact h.not_isRecordPlace path hpath
    · exact not_isDocumentPlace_furniture hroot hne h.admits.checked hclean h.admits.free.reserved hpath
  refine (ends_add_record hroot hne hv.tree wish).mono ?_ ?_
  · exact fun base _ after h => hadds h
  · rintro failure _ after (rfl | ⟨base, h⟩)
    · exact hv
    · exact hadds h

theorem ends_update_filed (hv : vault.Filed root) {change : KnowledgeBaseChange}
    (hline : ' ' ∉ root.toList ∨ ∀ raw, change.subfolder = some raw → IsSingleLine raw) :
    Ends ((inMemory .allowing clock root).update name change) state vault
      (fun _ _ after => after.Filed root) fun _ _ after => after.Filed root := by
  refine (ends_update_record hroot hne hv.tree change).mono ?_ ?_
  · rintro other _ after ⟨base, folder, middle, -, hmakes, -, hrecords, hother, hfolder⟩
    have hmiddle := hv.makesRoom hmakes
    have hreserved := hv.overlap_of_makesRoom hmakes
    obtain ⟨hisname, text, hget, hread⟩ := hmakes.keeps
    have hclean := hv.tree.file_clean _ (Vault.hasFile_of_get? hget)
    have hname : other.name = base.name := by rw [hother, KnowledgeBaseChange.applied]
    have hsubfolder : other.subfolder = folder := by rw [hother]
    have hnormal : Path.normalize folder = folder ∧ (' ' ∉ root.toList ∨ IsSingleLine folder) := by
      rcases hfolder with ⟨-, rfl⟩ | ⟨raw, hraw, hfolder⟩
      · exact ⟨(KnowledgeBase.subfolder_of_ofRecord hread).1, .inr (hv.line base hmakes.keeps)⟩
      · obtain ⟨rfl, hfolderClean, -⟩ := Path.folder_eq_ok hfolder
        exact ⟨hfolderClean.normal,
          hline.imp_right fun hlines => isSingleLine_normalize (hlines raw hraw)⟩
    rw [← hname] at hclean hisname
    rw [← hsubfolder] at hreserved hnormal
    refine (hmiddle.withRecord other hclean hisname hnormal.1 hreserved hnormal.2).confined hrecords
      fun path hpath => ?_
    rw [hpath]
    exact ⟨not_isRecordPlace_indexPlace root, not_isDocumentPlace_indexPlace root⟩
  · rintro failure _ after (rfl | ⟨base, folder, -, hmakes⟩)
    · exact hv
    · exact hv.makesRoom hmakes

-- Rules that pass the check are put on record for every folder of a knowledge base, and
-- failing to do so changes nothing.
theorem ends_addConstraint (clock : σ → Time.Instant × σ) (state : σ) (vault : Vault)
    (name raw : String) (rules : Rules) :
    Ends ((inMemory .allowing clock root).addConstraint name raw rules) state vault
      (fun constraint _ after => constraint = ⟨name, Path.normalize raw, rules⟩ ∧
        vault.Constrains root constraint after)
      fun _ _ after => after = vault ∧ ∀ base folder,
        KnowledgeBase.checkName name = .ok () → base.name = name → vault.Keeps root base →
          Path.folder raw = .ok folder → Path.isWithin folder base.subfolder = true →
            rules.check ≠ .ok () := by
  by_cases hkept : ∃ base, KnowledgeBase.checkName name = .ok () ∧ base.name = name ∧
      vault.Keeps root base
  · obtain ⟨base, hname, rfl, hb⟩ := hkept
    unfold addConstraint
    rw [ends_bind, ends_of_run_ok (run_require ((run_get_iff hroot hne).mpr ⟨hname, rfl, hb⟩))]
    refine .after_orFail (fun folder hfolder => ?_) fun fault hfault => ⟨rfl, ?_⟩
    · have hsame : ∀ {other : KnowledgeBase} {place : String}, other.name = base.name →
          vault.Keeps root other → Path.folder raw = .ok place → other = base ∧ place = folder :=
        fun hother ho hplace => ⟨ho.eq hb hother, Except.ok.inj (hplace.symm.trans hfolder)⟩
      split
      · rename_i hout
        refine .of_throw_bind ⟨rfl, fun other place _ hother ho hplace hw => ?_⟩
        obtain ⟨rfl, rfl⟩ := hsame hother ho hplace
        rw [hw] at hout
        cases hout
      · refine .after_orFail (fun _ _ => ?_) fun fault hfault => ⟨rfl, ?_⟩
        · obtain ⟨rfl, hclean, -⟩ := Path.folder_eq_ok hfolder
          have hplace := clean_constraintPlace hroot hne hname (Path.normalize raw)
          rw [constraintPath_inMemory hroot.normal, ends_bind, ends_of_run_ok (run_ask
            (Vault.perform_of_clean (by simpa [Call.paths] using hplace)))]
          exact (ends_pure _).mpr ⟨rfl, hname, ⟨base, rfl, hb⟩, hclean.normal, rfl⟩
        · intro _ _ _ _ _ _ _ hcheck
          rw [hfault] at hcheck
          cases hcheck
    · intro _ _ _ _ _ hplace
      rw [hfault] at hplace
      cases hplace
  · unfold addConstraint
    rw [ends_bind]
    refine (ends_require Policy.onlyRefuses_allowing hroot hne).mono ?_ ?_
    · rintro base _ after ⟨-, hname, hsame, hb⟩
      exact absurd ⟨base, hname, hsame, hb⟩ hkept
    · rintro failure _ after rfl
      exact ⟨rfl, fun base _ hname hsame hb => absurd ⟨base, hname, hsame, hb⟩ hkept⟩

-- Whatever is done, and whether it succeeds or not, every constraint stays in the
-- document that its subfolder names.
theorem ends_filed (hv : vault.Filed root) {operation : Operation α}
    (hline : ' ' ∉ root.toList ∨ operation.AsksOneLine) :
    Ends ((inMemory .allowing clock root).carryOut operation) state vault
      (fun _ _ after => after.Filed root) fun _ _ after => after.Filed root := by
  by_cases hkind : operation.WritesRecord
  · cases operation with
    | add wish => exact ends_add_filed hroot hne hv hline
    | update name change => exact ends_update_filed hroot hne hv hline
    | _ => exact hkind.elim
  · by_cases hrules : operation.WritesConstraint
    · cases operation with
      | addConstraint name subfolder rules =>
          refine (ends_addConstraint hroot hne clock state vault name subfolder rules).mono ?_ ?_
          · exact fun _ _ _ h => hv.constrains hroot hne h.2
          · rintro failure _ after ⟨rfl, -⟩
            exact hv
      | _ => exact hrules.elim
    · have hindex : ¬IsRecordPlace root (Path.normalize
          (inMemory (.allowing : Policy σ) clock root).indexPath) ∧ ¬IsDocumentPlace root
            (Path.normalize (inMemory (.allowing : Policy σ) clock root).indexPath) := by
        rw [indexPath_inMemory hroot hne]
        exact ⟨not_isRecordPlace_indexPlace root, not_isDocumentPlace_indexPlace root⟩
      refine (Works.ends_confined Policy.onlyRefuses_allowing (works_lent hroot hne hkind hrules
        (fun name _ => hv.lends) fun _ => hindex)).mono ?_ ?_
      · exact fun _ _ after h => hv.confined h.2 fun _ hp => hp
      · exact fun _ _ after h => hv.confined h fun _ hp => hp

theorem filed_carryOutAll (hv : vault.Filed root) (orders : List Order)
    (hlines : ' ' ∉ root.toList ∨ ∀ order ∈ orders, order.2.AsksOneLine) :
    (vaultAfter ((inMemory .allowing clock root).carryOutAll orders) state vault).Filed root := by
  induction orders generalizing state vault with
  | nil => exact hv
  | cons order orders ih =>
      rw [carryOutAll, vaultAfter_bind]
      refine ih (ends_filed hroot hne hv (hlines.imp_right fun h => ?_)).vaultAfter
        (hlines.imp_right fun h other ho => h other (List.mem_cons_of_mem order ho))
      exact h order List.mem_cons_self

end

end NoteVault
