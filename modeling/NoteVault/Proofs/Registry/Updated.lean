import NoteVault.Proofs.Registry.FiledAs
import NoteVault.Proofs.Registry.Returned
import NoteVault.Proofs.Registry.Sound

namespace NoteVault

open Registry Session

-- What a change makes of a knowledge base, as its record shows it.
def KnowledgeBaseChange.recorded (change : KnowledgeBaseChange) (base : KnowledgeBase) :
    KnowledgeBase :=
  { base with
    description := (change.description.map singleLine).getD base.description
    subfolder := (change.subfolder.map fun raw => Path.normalize (singleLine raw)).getD base.subfolder
    organizationRules := (change.organizationRules.map Text.trimmed).getD base.organizationRules }

-- The change that an operation makes to the knowledge base of a name, if it makes one.
def Operation.changeOf? {α : Type} (name : String) : Operation α → Option KnowledgeBaseChange
  | .update target change => if target = name then some change else none
  | _ => none

-- Two states of a knowledge base are alike in all that none of the changes names.
structure KnowledgeBase.SameButFor (changes : List KnowledgeBaseChange) (base read : KnowledgeBase) :
    Prop where
  name : read.name = base.name
  createTime : read.createTime = base.createTime
  description : (∀ change ∈ changes, change.description = none) → read.description = base.description
  subfolder : (∀ change ∈ changes, change.subfolder = none) → read.subfolder = base.subfolder
  organizationRules : (∀ change ∈ changes, change.organizationRules = none) →
    read.organizationRules = base.organizationRules

namespace KnowledgeBaseChange

-- Many changes leave what one of them leaves.
def recordedAll (changes : List KnowledgeBaseChange) (base : KnowledgeBase) : KnowledgeBase :=
  changes.foldl (fun base change => change.recorded base) base

variable {changes : List KnowledgeBaseChange} {base : KnowledgeBase}

@[simp] theorem recordedAll_name : (recordedAll changes base).name = base.name := by
  induction changes generalizing base with
  | nil => rfl
  | cons change changes ih => exact ih

@[simp] theorem recordedAll_createTime : (recordedAll changes base).createTime = base.createTime := by
  induction changes generalizing base with
  | nil => rfl
  | cons change changes ih => exact ih

theorem recordedAll_append (more : List KnowledgeBaseChange) :
    recordedAll (changes ++ more) base = recordedAll more (recordedAll changes base) :=
  List.foldl_append

-- What no change names, all of them leave alone.
theorem recordedAll_field {α β : Type} (field : KnowledgeBase → α)
    (named : KnowledgeBaseChange → Option β)
    (hkeeps : ∀ change base, named change = none → field (change.recorded base) = field base)
    (h : ∀ change ∈ changes, named change = none) : field (recordedAll changes base) = field base := by
  induction changes generalizing base with
  | nil => rfl
  | cons change changes ih =>
      rw [List.forall_mem_cons] at h
      exact (ih h.2).trans (hkeeps change base h.1)

theorem sameButFor_recordedAll {named : List KnowledgeBaseChange} (h : changes ⊆ named) :
    base.SameButFor named (recordedAll changes base) where
  name := recordedAll_name
  createTime := recordedAll_createTime
  description hnone := by
    refine recordedAll_field KnowledgeBase.description description ?_ fun change hc => hnone change (h hc)
    intro change base hnone
    rw [recorded, hnone]
    rfl
  subfolder hnone := by
    refine recordedAll_field KnowledgeBase.subfolder subfolder ?_ fun change hc => hnone change (h hc)
    intro change base hnone
    rw [recorded, hnone]
    rfl
  organizationRules hnone := by
    refine recordedAll_field KnowledgeBase.organizationRules organizationRules ?_
      fun change hc => hnone change (h hc)
    intro change base hnone
    rw [recorded, hnone]
    rfl

end KnowledgeBaseChange

namespace KnowledgeBase

variable {base read : KnowledgeBase} {change : KnowledgeBaseChange} {folder : String}

-- What is read of a record that was written is faithful, whatever texts were written.
theorem isFaithful_of_ofRecord_record (hchecked : checkName base.name = .ok ())
    (hplain : base.createTime.IsPlain) (hclean : Path.Clean base.subfolder) (hne : base.subfolder ≠ "")
    (hread : ofRecord base.name base.record = .ok read) : read.IsFaithful := by
  have hfolder : Path.normalize (singleLine base.subfolder) = singleLine base.subfolder := by
    rw [normalize_singleLine, hclean.normal]
  have hshown : singleLine base.subfolder ≠ "" :=
    fun hempty => hne ((singleLine_eq_empty_iff _).mp hempty)
  have htime := Time.Instant.ofText?_text hplain.valid hplain.year
  rw [ofRecord_record htime (by rw [hfolder]; exact hshown), hfolder] at hread
  obtain rfl := Except.ok.inj hread
  refine ⟨⟨⟨hfolder, ?_⟩, hshown, isSingleLine_singleLine _, htime⟩, hchecked, isSingleLine_singleLine _,
    trimmed_trimmed _, hplain⟩
  rw [hasTraversal_singleLine, hclean.stays]

-- A folder that a change leaves a knowledge base with is one that it can own.
theorem IsFaithful.clean_folder (h : base.IsFaithful)
    (hfolder : folder = base.subfolder ∨ ∃ raw, Path.folder raw = .ok folder) :
    Path.Clean folder ∧ folder ≠ "" := by
  rcases hfolder with rfl | ⟨raw, hraw⟩
  · exact ⟨h.clean, h.nonempty⟩
  · exact (Path.folder_eq_ok hraw).2

-- The record of a changed knowledge base shows what was named in its new form, and what
-- was not named in the old one.
theorem ofRecord_changed (h : base.IsFaithful)
    (hfolder : change.subfolder = none ∧ folder = base.subfolder ∨
      ∃ raw, change.subfolder = some raw ∧ Path.folder raw = .ok folder) :
    ofRecord base.name { change.applied base with subfolder := folder }.record =
      .ok (change.recorded base) := by
  obtain ⟨hclean, hne⟩ := h.clean_folder (hfolder.imp And.right (Exists.imp fun _ => And.right))
  have hdescription : singleLine (change.description.getD base.description) =
      (change.description.map singleLine).getD base.description := by
    cases change.description with
    | none => exact singleLine_eq h.description
    | some text => rfl
  have hsubfolder : Path.normalize (singleLine folder) =
      (change.subfolder.map fun raw => Path.normalize (singleLine raw)).getD base.subfolder := by
    rcases hfolder with ⟨hnone, rfl⟩ | ⟨raw, hsome, hraw⟩
    · rw [hnone, singleLine_eq h.line, hclean.normal]
      rfl
    · rw [hsome, (Path.folder_eq_ok hraw).1, normalize_singleLine, Path.normalize_normalize,
        Option.map_some, Option.getD_some, normalize_singleLine]
  have hrules : Text.trimmed ((change.organizationRules.map Text.trimmed).getD base.organizationRules) =
      (change.organizationRules.map Text.trimmed).getD base.organizationRules := by
    cases change.organizationRules with
    | none => exact h.rules
    | some rules => exact trimmed_trimmed rules
  have hshown : Path.normalize (singleLine folder) ≠ "" := by
    rw [normalize_singleLine, hclean.normal]
    exact fun hempty => hne ((singleLine_eq_empty_iff _).mp hempty)
  refine (@ofRecord_record { change.applied base with subfolder := folder } h.time hshown).trans ?_
  simp only [KnowledgeBaseChange.applied, KnowledgeBaseChange.recorded, hdescription, hsubfolder, hrules]

end KnowledgeBase

-- The change is made to the knowledge base: its record shows it, and besides only the
-- index may be another document.
structure Vault.Updates (vault : Vault) (root : String) (base : KnowledgeBase)
    (change : KnowledgeBaseChange) (after : Vault) : Prop where
  keeps : vault.Keeps root base
  shows : after.Keeps root (change.recorded base)
  others : ∀ other, other.name ≠ base.name → (after.Keeps root other ↔ vault.Keeps root other)
  files : ∀ path, path ≠ recordPlace root base.name → path ≠ indexPlace root →
    after.files.get? path = vault.files.get? path

section

variable {σ α : Type} {clock : σ → Time.Instant × σ} {root name : String} {state : σ} {vault : Vault}
  {base : KnowledgeBase}

theorem upholds_isFaithful (root : String) (hclock : ShowsPlainYears clock) :
    Upholds root clock KnowledgeBase.IsFaithful where
  added hadmits hread := by
    obtain ⟨-, hclean, hne⟩ := Path.folder_eq_ok hadmits.folder
    obtain ⟨shown, htime⟩ := hadmits.clock
    refine KnowledgeBase.isFaithful_of_ofRecord_record hadmits.checked ?_ hclean hne hread
    rw [htime]
    exact ⟨(hclock shown).1, (hclock shown).2⟩
  updated := by
    intro base read change folder hbase hfolder hread
    obtain ⟨hclean, hne⟩ := hbase.clean_folder hfolder
    exact @KnowledgeBase.isFaithful_of_ofRecord_record { change.applied base with subfolder := folder }
      read hbase.checked hbase.plain hclean hne hread

variable (hroot : Path.Clean root) (hne : root ≠ "")
include hroot hne

theorem ends_update_recorded (hv : vault.FiledAs root KnowledgeBase.IsFaithful)
    (change : KnowledgeBaseChange) :
    Ends ((inMemory .allowing clock root).update name change) state vault
      (fun _ _ after => ∃ base, base.name = name ∧ vault.Updates root base change after)
      fun _ _ after => ∀ base, after.Keeps root base ↔ vault.Keeps root base := by
  refine (ends_update_record hroot hne hv.tree change).mono ?_ ?_
  · rintro written _ after ⟨base, folder, middle, hname, hmakes, hfiles, hrecords, hwritten, hfolder⟩
    have hsame : written.name = base.name := by rw [hwritten, KnowledgeBaseChange.applied]
    have hisname : Path.IsName written.name.toList := hsame ▸ hmakes.keeps.1
    have hplaces : ∀ path, path = indexPlace root → ¬IsRecordPlace root path := by
      rintro _ rfl
      exact not_isRecordPlace_indexPlace root
    have hread : KnowledgeBase.ofRecord written.name written.record = .ok (change.recorded base) := by
      rw [hsame, hwritten]
      exact KnowledgeBase.ofRecord_changed (hv.kind base hmakes.keeps) hfolder
    refine ⟨base, hname, hmakes.keeps, hrecords.keeps_of_ofRecord hplaces hisname hread, ?_, ?_⟩
    · intro other ho
      rw [hrecords.keeps_iff hplaces hisname (hsame ▸ ho), Vault.keeps_of_files_eq hfiles]
    · intro path hrecord hindex
      rw [Vault.Confined.file hrecords path hindex, Vault.get?_withFile, if_neg (hsame ▸ hrecord), hfiles]
  · rintro failure _ after (rfl | ⟨base, folder, -, hmakes⟩)
    · exact fun _ => Iff.rfl
    · exact hv.keeps_of_makesRoom hmakes

-- What is on record stays there, but for the changes that are made to it.
theorem ends_recordedAll (hv : vault.FiledAs root KnowledgeBase.IsFaithful)
    (hkeeps : vault.Keeps root base) (operation : Operation α) :
    let evolves := fun after : Vault => ∃ changes,
      changes.Sublist (operation.changeOf? base.name).toList ∧
        after.Keeps root (KnowledgeBaseChange.recordedAll changes base)
    Ends ((inMemory .allowing clock root).carryOut operation) state vault
      (fun _ _ after => evolves after) fun _ _ after => evolves after := by
  intro evolves
  have hstays : ∀ {after : Vault}, after.Keeps root base → evolves after :=
    fun h => ⟨[], List.nil_sublist _, h⟩
  by_cases hkind : operation.WritesRecord
  · cases operation with
    | add wish =>
        have hadds : ∀ {written : KnowledgeBase} {after : Vault},
            vault.Adds root clock wish written after → after.Keeps root base := by
          intro written after h
          refine (h.records.keeps_iff h.not_isRecordPlace h.isName fun hname => ?_).mpr hkeeps
          obtain ⟨-, text, hget, -⟩ := hkeeps
          have hvacant := h.vacant
          rw [← hname, Vault.hasFile_of_get? hget] at hvacant
          cases hvacant
        refine (ends_add_record hroot hne hv.tree wish).mono ?_ ?_
        · exact fun _ _ _ h => hstays (hadds h)
        · rintro failure _ after (rfl | ⟨written, h⟩)
          · exact hstays hkeeps
          · exact hstays (hadds h)
    | update target change =>
        refine (ends_update_recorded hroot hne hv change).mono ?_ ?_
        · rintro _ _ after ⟨old, rfl, h⟩
          by_cases hname : base.name = old.name
          · obtain rfl := hkeeps.eq h.keeps hname
            refine ⟨[change], ?_, h.shows⟩
            rw [Operation.changeOf?, if_pos rfl]
            exact List.Sublist.refl _
          · exact hstays ((h.others base hname).mpr hkeeps)
        · exact fun _ _ after h => hstays ((h base).mpr hkeeps)
    | _ => exact hkind.elim
  · refine (ends_keeps_iff hroot hne hv.reserved hkind).mono ?_ ?_
    · exact fun _ _ after h => hstays ((h base).mpr hkeeps)
    · exact fun _ _ after h => hstays ((h base).mpr hkeeps)

theorem exists_recordedAll (hclock : ShowsPlainYears clock)
    (hv : vault.FiledAs root KnowledgeBase.IsFaithful) (hkeeps : vault.Keeps root base)
    (orders : List Order) (hlines : ' ' ∉ root.toList ∨ ∀ order ∈ orders, order.2.AsksOneLine) :
    ∃ changes, changes.Sublist (orders.filterMap fun order => order.2.changeOf? base.name) ∧
      (vaultAfter ((inMemory .allowing clock root).carryOutAll orders) state vault).Keeps root
        (KnowledgeBaseChange.recordedAll changes base) := by
  induction orders generalizing state vault base with
  | nil => exact ⟨[], List.nil_sublist _, hkeeps⟩
  | cons order orders ih =>
      rw [List.forall_mem_cons] at hlines
      rw [carryOutAll, vaultAfter_bind]
      have hafter : (vaultAfter ((inMemory .allowing clock root).carryOut order.2).run state
          vault).FiledAs root KnowledgeBase.IsFaithful :=
        (ends_filedAs hroot hne (upholds_isFaithful root hclock) hv
          (hlines.imp_right And.left)).vaultAfter
      obtain ⟨first, hfirst, hnow⟩ := (ends_recordedAll hroot hne hv hkeeps order.2).vaultAfter
      obtain ⟨rest, hrest, hlast⟩ := ih hafter hnow (hlines.imp_right And.right)
      rw [KnowledgeBaseChange.recordedAll_name] at hrest
      refine ⟨first ++ rest, ?_, KnowledgeBaseChange.recordedAll_append rest ▸ hlast⟩
      rw [← List.singleton_append, List.filterMap_append]
      refine List.Sublist.append ?_ hrest
      rw [List.filterMap_cons]
      cases hchange : order.2.changeOf? base.name <;> simpa [hchange] using hfirst

-- Whatever was ordered since the vault was empty, an update that succeeds shows what it
-- names in its new form, leaves what it does not name as it was, and changes no other
-- document than the index. Hence what is never named stays as it is, whatever is ordered.
theorem update_recorded (hclock : ShowsPlainYears clock) (orders : List Order)
    (hlines : ' ' ∉ root.toList ∨ ∀ order ∈ orders, order.2.AsksOneLine) (state : σ) :
    let registry := inMemory .allowing clock root
    let reached := vaultAfter (registry.carryOutAll orders) state Vault.empty
    (∀ name change later, Ends (registry.update name change) later reached
      (fun _ next after => ∃ base,
        (registry.get name).run later reached = ((.ok (some base), later), reached) ∧
          (registry.get name).run next after = ((.ok (some (change.recorded base)), next), after) ∧
          ∀ path, path ≠ recordPlace root name → path ≠ indexPlace root →
            after.files.get? path = reached.files.get? path)
      fun _ _ _ => True) ∧
    ∀ name base later further,
      (registry.get name).run later reached = ((.ok (some base), later), reached) →
      (' ' ∉ root.toList ∨ ∀ order ∈ further, order.2.AsksOneLine) →
      let changes := further.filterMap fun order => order.2.changeOf? name
      let next := stateAfter (registry.carryOutAll further) later reached
      let after := vaultAfter (registry.carryOutAll further) later reached
      ∃ read, (registry.get name).run next after = ((.ok (some read), next), after) ∧
        base.SameButFor changes read := by
  intro registry reached
  have hu := upholds_isFaithful root hclock
  have hv : reached.FiledAs root KnowledgeBase.IsFaithful :=
    filedAs_carryOutAll hroot hne hu (filedAs_empty root _) orders hlines
  clear_value reached
  refine ⟨fun name change later => ?_, fun name base later further hbase hfurther => ?_⟩
  · refine (ends_update_recorded hroot hne hv change).mono ?_ fun _ _ _ _ => trivial
    rintro _ next after ⟨base, rfl, h⟩
    have hname := (hv.kind base h.keeps).checked
    exact ⟨base, (run_get_iff hroot hne).mpr ⟨hname, rfl, h.keeps⟩,
      (run_get_iff hroot hne).mpr ⟨hname, rfl, h.shows⟩, h.files⟩
  · intro changes next after
    obtain ⟨hname, rfl, hkeeps⟩ := (run_get_iff hroot hne).mp hbase
    obtain ⟨made, hmade, hlast⟩ := exists_recordedAll hroot hne hclock hv hkeeps further hfurther
    refine ⟨KnowledgeBaseChange.recordedAll made base, (run_get_iff hroot hne).mpr ?_,
      KnowledgeBaseChange.sameButFor_recordedAll hmade.subset⟩
    exact ⟨hname, KnowledgeBaseChange.recordedAll_name, hlast⟩

end

-- New rules, given twice, for a knowledge base whose other texts were given in two lines.
theorem update_recorded_rules :
    let registry : Registry (Session Unit) :=
      inMemory .allowing (fun _ => (⟨⟨2024, 5, 17⟩, 8, 30, 0, 0⟩, ())) ".kb"
    let orders : List Order := [⟨_, .add ⟨"team", "a\nb", "notes\nteam", ""⟩⟩,
      ⟨_, .createNote "team" "plan" "Begin."⟩]
    let change : KnowledgeBaseChange := ⟨none, none, some " Be brief.\n"⟩
    let further : List Order := [⟨_, .update "team" change⟩, ⟨_, .update "team" change⟩]
    let reached := vaultAfter (registry.carryOutAll orders) () Vault.empty
    Ends (registry.update "team" change) () reached
      (fun _ next after => ∃ base,
        (registry.get "team").run () reached = ((.ok (some base), ()), reached) ∧
          (registry.get "team").run next after = ((.ok (some (change.recorded base)), next), after) ∧
          ∀ path, path ≠ recordPlace ".kb" "team" → path ≠ indexPlace ".kb" →
            after.files.get? path = reached.files.get? path)
      (fun _ _ _ => True) ∧
    ∀ base, (registry.get "team").run () reached = ((.ok (some base), ()), reached) →
      let next := stateAfter (registry.carryOutAll further) () reached
      let after := vaultAfter (registry.carryOutAll further) () reached
      ∃ read, (registry.get "team").run next after = ((.ok (some read), next), after) ∧
        read.createTime = base.createTime ∧ read.description = base.description ∧
          read.subfolder = base.subfolder := by
  intro registry orders change further reached
  have hroot : Path.Clean ".kb" := ⟨by decide, by decide⟩
  have hclock : ShowsPlainYears fun _ : Unit =>
      ((⟨⟨2024, 5, 17⟩, 8, 30, 0, 0⟩ : Time.Instant), ()) := by
    intro _
    dsimp only
    decide
  have hrecorded := update_recorded hroot (by decide) hclock orders (.inl (by decide)) ()
  refine ⟨hrecorded.1 "team" change (), fun base hbase => ?_⟩
  obtain ⟨read, hread, hsame⟩ := hrecorded.2 "team" base () further hbase (.inl (by decide))
  exact ⟨read, hread, hsame.createTime, hsame.description (by decide), hsame.subfolder (by decide)⟩

end NoteVault
