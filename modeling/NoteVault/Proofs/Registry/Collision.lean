import NoteVault.Proofs.Registry.Addition

namespace NoteVault

open Registry Session

variable {σ : Type} {policy : Policy σ} {clock : σ → Time.Instant × σ} {root name : String}
  {vault : Vault} {notes : σ × List RefusedCall} {given : RefusedCall → Prop}

section

variable (hp : policy.OnlyRefuses) (hroot : Path.Clean root) (hne : root ≠ "")
include hp hroot hne

-- Another subfolder is taken only if the scan does not speak against it.
theorem ends_moveTo_noting (given : RefusedCall → Prop) (hv : vault.IsTree) (base : KnowledgeBase)
    (raw : String) :
    Ends ((noting policy clock root).moveTo base raw) notes vault
      (fun moved later _ => moved.name = base.name ∧ (moved.subfolder = base.subfolder ∨
        ((∀ refusal ∈ later.2, given refusal) →
          vault.SeemsApart root given base.name moved.subfolder)))
      fun _ _ _ => True := by
  refine .after_orFail (fun folder hfolder => ?_) fun _ _ => trivial
  split
  · exact (ends_pure _).mpr ⟨rfl, .inl rfl⟩
  refine .after_learning (learns_scan given hp hv hroot hne)
    (fun bases first _ hbases => ?_) fun _ _ => trivial
  refine .after_orFail (fun _ hexclusive => ?_) fun _ _ => trivial
  obtain ⟨-, hapart⟩ := checkExclusive_eq_ok hroot.normal hexclusive
  refine .after_learning (.reading given hp (works_constraints fun _ => serves_reading))
    (fun _ second hgrows _ => ?_) fun _ _ => trivial
  rw [ends_bind]
  refine ends_ask_noting hp (fun _ next _ => ?_) (fun _ _ _ => trivial) fun _ _ => trivial
  refine (ends_pure _).mpr ⟨rfl, .inr fun hgiven other ho hother hshown => hapart other ?_ hother⟩
  exact hbases (fun refusal hr => hgiven refusal (hgrows hr)) other ho hshown

theorem ends_commit_noting (hname : KnowledgeBase.checkName name = .ok ()) (base : KnowledgeBase)
    (hsame : base.name = name) :
    Ends ((noting policy clock root).commit name base) notes vault
      (fun other later after => other = base ∧ notes.2 ⊆ later.2 ∧
        ∀ kept, kept.name ≠ name → (after.Keeps root kept ↔ vault.Keeps root kept))
      fun _ _ _ => True := by
  have hworks : (noting policy clock root).Works (.confined vault fun _ => True)
      ((noting policy clock root).commit name base) fun _ => True := by
    refine .bind (.ask (fun _ _ => trivial) fun _ h => h) fun _ _ => ?_
    exact .bind (.lift (follows_refreshIndex (indexes_confined trivial) _ _)) fun _ _ => .pure trivial
  refine ((ends_commit_record hroot hne hp.noting base hsame hname).and
    (hworks.ends_confined_noting hp)).mono ?_ fun _ _ _ _ => trivial
  rintro other later after ⟨⟨rfl, hrecords⟩, -, -, hgrows⟩
  refine ⟨rfl, hgrows, fun kept hkept => hrecords.keeps_iff ?_ ?_ (hsame ▸ hkept)⟩
  · rintro path rfl
    exact not_isRecordPlace_indexPlace root
  · rw [hsame]
    exact (KnowledgeBase.isName_of_checkName hname).1

-- An update gives a knowledge base a subfolder that it had, or one that is apart from
-- all that is known of.
theorem ends_update_noting (given : RefusedCall → Prop) (hv : vault.IsTree)
    (change : KnowledgeBaseChange) :
    Ends ((noting policy clock root).update name change) notes vault
      (fun base later after => (∃ old, vault.Keeps root old ∧ old.name = base.name ∧
          (base.subfolder = old.subfolder ∨ ((∀ refusal ∈ later.2, given refusal) →
            vault.SeemsApart root given base.name base.subfolder))) ∧
        ∀ kept, kept.name ≠ base.name → (after.Keeps root kept ↔ vault.Keeps root kept))
      fun _ _ _ => True := by
  rw [update_eq, ends_bind]
  refine (ends_require hp.noting hroot hne).mono ?_ fun _ _ _ _ => trivial
  rintro base first _ ⟨rfl, hname, rfl, hkeeps⟩
  rw [ends_bind]
  cases change.subfolder with
  | none =>
      refine (ends_pure _).mpr ((ends_commit_noting hp hroot hne hname (change.applied base) rfl).mono
        ?_ fun _ _ _ h => h)
      rintro _ later after ⟨rfl, -, hkept⟩
      exact ⟨⟨base, hkeeps, rfl, .inl rfl⟩, hkept⟩
  | some raw =>
      refine ((ends_moveTo_noting hp hroot hne given hv (change.applied base) raw).and
        (ends_moveTo hp.noting (change.applied base))).mono ?_ fun _ _ _ _ => trivial
      rintro moved second middle ⟨⟨hsame, hfolder⟩, hfiles⟩
      refine (ends_commit_noting hp hroot hne hname moved hsame).mono ?_ fun _ _ _ h => h
      rintro _ later after ⟨rfl, hgrows, hkept⟩
      refine ⟨⟨base, hkeeps, hsame.symm, hfolder.imp_right fun happart hgiven => ?_⟩, fun kept hne => ?_⟩
      · rw [hsame]
        exact happart fun refusal hr => hgiven refusal (hgrows hr)
      · rw [hkept kept (hsame ▸ hne), Vault.keeps_of_files_eq hfiles]

-- What an addition or an update returns collides with no knowledge base on record but
-- such as a refusal hid from it.
theorem changed_apart (hv : vault.Reachable)
    (hapart : ∀ base other, vault.Keeps root base → vault.Keeps root other →
      base.name ≠ other.name → Path.overlap base.subfolder other.subfolder = false) (state : σ) :
    let registry := noting policy clock root
    let apart := fun (base : KnowledgeBase) (later : σ × List RefusedCall) (after : Vault) =>
      ∀ other, after.Keeps root other → other.name ≠ base.name →
        ¬HidesRecord (· ∈ later.2) root other.name →
          Path.overlap base.subfolder other.subfolder = false
    (∀ wish, Ends (registry.add wish) (state, []) vault apart fun _ _ _ => True) ∧
      ∀ name change, Ends (registry.update name change) (state, []) vault apart
        fun _ _ _ => True := by
  intro registry apart
  let apartFor := fun (given : RefusedCall → Prop) (base : KnowledgeBase) (after : Vault) =>
    ∀ other, after.Keeps root other → other.name ≠ base.name → ¬HidesRecord given root other.name →
      Path.overlap base.subfolder other.subfolder = false
  refine ⟨fun wish => .of_given apartFor fun given => ?_,
    fun name change => .of_given apartFor fun given => ?_⟩
  · refine (ends_add_noting hroot hne given hp hv.isTree wish not_lacksFolder_nil).mono ?_
      fun _ _ _ _ => trivial
    rintro base later after ⟨hbase, hrecords, happart⟩ hgiven other ho hother hshown
    have hname := (KnowledgeBase.isName_of_checkName hbase.checked).1
    refine happart hgiven other ((hrecords.keeps_iff ?_ hname hother).mp ho) hother hshown
    exact fun path hpath => not_isRecordPlace_furniture hname hbase.clean hbase.reserved hpath
  · refine (ends_update_noting hp hroot hne given hv.isTree change).mono ?_ fun _ _ _ h => h
    rintro base later after ⟨⟨old, hold, hsame, hfolder⟩, hkept⟩ hgiven other ho hother hshown
    have hbefore := (hkept other hother).mp ho
    rcases hfolder with hfolder | happart
    · rw [hfolder]
      exact hapart old other hold hbefore (hsame ▸ hother.symm)
    · exact happart hgiven other hbefore hother hshown

end

-- A scan that is refused the record of home, or told that there are no records, lets
-- work settle inside the subfolder of home.
theorem add_colliding :
    let home : KnowledgeBase := .bare "home" "notes"
    let work : KnowledgeBase := .bare "work" "notes/work"
    let vault := Vault.empty.withFile (recordPlace ".kb" "home") home.record
    Path.overlap work.subfolder home.subfolder = true ∧ vault.Keeps ".kb" home ∧
      ∀ refused ∈ [(2, StorageFault.inputOutput), (1, .notFound ".kb")],
        let registry := noting (.refusing [refused.1] refused.2) (fun turn => (home.createTime, turn))
          ".kb"
        let added := (registry.add ⟨"work", "", "notes/work", ""⟩).run
        let after := vaultAfter added (0, []) vault
        result added (0, []) vault = .ok work ∧ after.Keeps ".kb" home ∧ after.Keeps ".kb" work := by
  intro home work vault
  have hrecordable : ∀ {name folder : String}, Path.Clean folder → folder ≠ "" →
      IsSingleLine folder → KnowledgeBase.ofRecord name (KnowledgeBase.bare name folder).record =
        .ok (.bare name folder) := fun hclean hnonempty hline =>
    KnowledgeBase.ofRecord_bare (KnowledgeBase.isRecordable_bare hclean hnonempty hline)
  have hhome : vault.Keeps ".kb" home := by
    refine ⟨by decide, home.record, ?_, hrecordable ⟨by decide, by decide⟩ (by decide) (by decide)⟩
    rw [Vault.get?_withFile]
    exact if_pos rfl
  have htree : vault.IsTree := Vault.isTree_empty.withFile ⟨by decide, by decide⟩ home.record
  refine ⟨by decide, hhome, fun refused hrefused => ?_⟩
  intro registry added after
  have hadded : result added (0, []) vault = .ok work := by
    rcases List.mem_pair.mp hrefused with rfl | rfl <;> decide +kernel
  have hrun : added (0, []) vault = ((.ok work, stateAfter added (0, []) vault), after) := by
    rw [← hadded]
    rfl
  obtain ⟨hbecomes, hrecords, -⟩ := (ends_of_run_ok hrun).mp <|
    ends_add_noting ⟨by decide, by decide⟩ (by decide) (fun _ => True)
      (Policy.onlyRefuses_refusing [refused.1] refused.2) htree _ not_lacksFolder_nil
  have hplaces : ∀ path, IsFurniture ".kb" work path → ¬IsRecordPlace ".kb" path := fun path hpath =>
    not_isRecordPlace_furniture (by decide) hbecomes.clean hbecomes.reserved hpath
  refine ⟨hadded, (hrecords.keeps_iff hplaces (by decide) (by decide)).mpr hhome, ?_⟩
  rw [Vault.Confined.keeps_iff hrecords hplaces]
  refine ⟨by decide, work.record, ?_, hrecordable ⟨by decide, by decide⟩ (by decide) (by decide)⟩
  rw [Vault.get?_withFile]
  exact if_pos rfl

-- Home has a subfolder of its own, and the scan for it is refused a look at the root.
theorem changed_apart_refused :
    let home : KnowledgeBase := .bare "home" "notes"
    let vault := Vault.empty.withFile (recordPlace ".kb" "home") home.record
    let registry := noting (.refusing [1] .inputOutput) (fun turn => (home.createTime, turn)) ".kb"
    let apart := fun (base : KnowledgeBase) (later : Nat × List RefusedCall) (after : Vault) =>
      ∀ other, after.Keeps ".kb" other → other.name ≠ base.name →
        ¬HidesRecord (· ∈ later.2) ".kb" other.name →
          Path.overlap base.subfolder other.subfolder = false
    (∀ wish, Ends (registry.add wish) (0, []) vault apart fun _ _ _ => True) ∧
      ∀ name change, Ends (registry.update name change) (0, []) vault apart fun _ _ _ => True := by
  intro home vault registry apart
  have hv : vault.Reachable := Vault.Reachable.empty.withFile ⟨by decide, by decide⟩ home.record
  refine changed_apart (Policy.onlyRefuses_refusing [1] .inputOutput) ⟨by decide, by decide⟩
    (by decide) hv (fun base other hb ho hne => ?_) 0
  have hname : ∀ {kept : KnowledgeBase}, vault.Keeps ".kb" kept → kept.name = "home" := by
    rintro kept ⟨hkept, text, hget, -⟩
    rw [Vault.get?_withFile] at hget
    split at hget
    · rename_i hplace
      exact recordPlace_injective hkept (by decide) hplace
    · cases hget
  exact absurd ((hname hb).trans (hname ho).symm) hne

end NoteVault
