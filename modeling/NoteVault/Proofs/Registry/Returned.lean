import NoteVault.Proofs.KnowledgeBase.ReadBack
import NoteVault.Proofs.Registry.Recording

namespace NoteVault

open Registry Session

namespace KnowledgeBase

-- What the record of a knowledge base shows of it: the texts of the header have
-- blanks for their line ends.
def shown (base : KnowledgeBase) : KnowledgeBase :=
  { base with
    description := singleLine base.description
    subfolder := singleLine base.subfolder }

-- A knowledge base as the registry puts it on record.
structure IsSettled (base : KnowledgeBase) : Prop where
  normal : Path.normalize base.subfolder = base.subfolder
  nonempty : base.subfolder ≠ ""
  rules : Text.trimmed base.organizationRules = base.organizationRules

theorem trimmed_trimmed (text : String) : Text.trimmed (Text.trimmed text) = Text.trimmed text := by
  rw [Text.trimmed, Text.trimmed, String.toList_ofList, Text.trim_trim]

theorem isSettled_of_ofRecord {name text : String} {base : KnowledgeBase}
    (h : ofRecord name text = .ok base) : base.IsSettled := by
  obtain ⟨hnormal, hne⟩ := subfolder_of_ofRecord h
  obtain ⟨createTime, subfolder, -, -, rfl⟩ := ofRecord_eq_ok h
  exact ⟨hnormal, hne, trimmed_trimmed _⟩

theorem IsSettled.applied {base : KnowledgeBase} (h : base.IsSettled) (change : KnowledgeBaseChange) :
    (change.applied base).IsSettled := by
  refine ⟨h.normal, h.nonempty, ?_⟩
  cases hrules : change.organizationRules with
  | none => simp only [KnowledgeBaseChange.applied, hrules, Option.map_none, Option.getD_none, h.rules]
  | some rules =>
      simp only [KnowledgeBaseChange.applied, hrules, Option.map_some, Option.getD_some,
        trimmed_trimmed]

theorem IsSettled.moved {base : KnowledgeBase} {raw folder : String} (h : base.IsSettled)
    (hfolder : Path.folder raw = .ok folder) : { base with subfolder := folder }.IsSettled := by
  obtain ⟨-, hclean, hne⟩ := Path.folder_eq_ok hfolder
  exact ⟨hclean.normal, hne, h.rules⟩

-- The record of such a knowledge base shows all but line ends.
theorem IsSettled.ofRecord {base : KnowledgeBase} (h : base.IsSettled)
    (hvalid : base.createTime.isValid = true)
    (hyear : 0 ≤ base.createTime.date.year ∧ base.createTime.date.year ≤ 9999) :
    ofRecord base.name base.record = .ok base.shown := by
  have hfolder : Path.normalize (singleLine base.subfolder) = singleLine base.subfolder := by
    rw [normalize_singleLine, h.normal]
  have hne : Path.normalize (singleLine base.subfolder) ≠ "" := by
    rw [hfolder]
    exact fun hempty => h.nonempty ((singleLine_eq_empty_iff _).mp hempty)
  rw [ofRecord_record (Time.Instant.ofText?_text hvalid hyear) hne, hfolder, h.rules]
  rfl

end KnowledgeBase

-- The record of the knowledge base is where it is looked for.
structure Vault.HasRecord (vault : Vault) (place : String) (base : KnowledgeBase) : Prop where
  checked : KnowledgeBase.checkName base.name = .ok ()
  clean : Path.Clean (Path.normalize place)
  text : vault.files.get? (Path.normalize place) = some base.record

section

variable {σ : Type} {policy : Policy σ} {clock : σ → Time.Instant × σ} {root name : String}
  {state : σ} {vault after : Vault} {base : KnowledgeBase}

theorem Vault.HasRecord.refreshIndex (hp : policy.OnlyRefuses)
    (h : vault.HasRecord ((inMemory policy clock root).recordPath base.name) base) (entry : Summary)
    (attempts : Nat) :
    (vaultAfter ((inMemory policy clock root).refreshIndex entry attempts) state vault).HasRecord
      ((inMemory policy clock root).recordPath base.name) base := by
  have hindexes : (Contract.confined vault (· = Path.normalize (inMemory policy clock root).indexPath)).Indexes
      (inMemory policy clock root) := indexes_confined rfl
  have hends : Ends (liftM ((inMemory policy clock root).refreshIndex entry attempts)) state vault _ _ :=
    Works.ends_confined hp (.lift (follows_refreshIndex hindexes entry attempts))
  have hconfined := (ends_lift.mp hends).2
  have hplace : Path.normalize ((inMemory policy clock root).recordPath base.name) ≠
      Path.normalize (inMemory policy clock root).indexPath := by
    rw [ne_eq, Path.normalize_eq_normalize_iff]
    exact segments_record_ne _ _
  exact ⟨h.checked, h.clean, (hconfined.file _ hplace).trans h.text⟩

-- What a write leaves as the record of a knowledge base.
theorem Vault.hasRecord_of_write {mode : WriteMode} (hname : KnowledgeBase.checkName base.name = .ok ())
    {place : String} (hok : (vault.perform (.write place base.record mode)).1 = .ok ()) :
    (vault.perform (.write place base.record mode)).2.HasRecord place base := by
  rcases perform_write vault place base.record mode with ⟨fault, hr⟩ | ⟨hclean, hr, -⟩
  · rw [hr] at hok
    cases hok
  · rw [hr]
    exact ⟨hname, hclean, by rw [get?_withFile, if_pos rfl]⟩

-- A record that is in its place is what is found under the name.
theorem run_get_of_hasRecord {read : KnowledgeBase}
    (h : vault.HasRecord ((inMemory (.allowing : Policy σ) clock root).recordPath base.name) base)
    (hread : KnowledgeBase.ofRecord base.name base.record = .ok read) :
    ((inMemory .allowing clock root).get base.name).run state vault =
      ((.ok (some read), state), vault) := by
  unfold Registry.get
  simp only [h.checked]
  rw [run_bind_ok run_perform, Vault.read_of_place h.clean h.text]
  simp only [hread]
  rfl

section

variable (hp : policy.OnlyRefuses)
include hp

theorem ends_commit_returned (base : KnowledgeBase) (hname : KnowledgeBase.checkName base.name = .ok ()) :
    Ends ((inMemory policy clock root).commit base.name base) state vault
      (fun other _ after => other = base ∧
        after.HasRecord ((inMemory policy clock root).recordPath base.name) base)
      fun _ _ _ => True := by
  unfold commit
  rw [ends_bind]
  refine ends_ask hp (fun _ _ hok => ?_) fun _ _ => trivial
  have hrecord := Vault.hasRecord_of_write hname hok
  rw [ends_bind, ends_lift]
  exact (ends_pure base).mpr ⟨rfl, hrecord.refreshIndex hp _ _⟩

-- Making folders is no work on files.
theorem Vault.HasRecord.furnish
    (h : vault.HasRecord ((inMemory policy clock root).recordPath base.name) base) :
    Ends ((inMemory policy clock root).furnish base) state vault
      (fun other _ after => other = base ∧
        after.HasRecord ((inMemory policy clock root).recordPath base.name) base)
      fun _ _ _ => True := by
  have hfolder : ∀ {vault : Vault} {place : String} (raw : String), vault.HasRecord place base →
      (vault.perform (.createFolder raw)).2.HasRecord place base := fun raw hv =>
    ⟨hv.checked, hv.clean, by rw [Vault.files_createFolder]; exact hv.text⟩
  unfold Registry.furnish
  rw [ends_bind]
  refine ends_ask hp (fun _ _ _ => ?_) fun _ _ => trivial
  rw [ends_bind]
  refine ends_ask hp (fun _ _ _ => ?_) fun _ _ => trivial
  rw [ends_bind, ends_lift]
  exact (ends_pure base).mpr ⟨rfl, (hfolder _ (hfolder _ h)).refreshIndex hp _ _⟩

theorem ends_add_returned (wish : NewKnowledgeBase) :
    Ends ((inMemory policy clock root).add wish) state vault
      (fun base _ after => base.IsSettled ∧
        after.HasRecord ((inMemory policy clock root).recordPath base.name) base)
      fun _ _ _ => True := by
  refine .after_orFail (fun _ hname => ?_) fun _ _ => trivial
  refine .after_orFail (fun folder hfolder => ?_) fun _ _ => trivial
  obtain ⟨-, hclean, hne⟩ := Path.folder_eq_ok hfolder
  refine .after_reading hp (.ask (by trivial) fun _ h => h) (fun present _ _ => ?_) fun _ _ => trivial
  split
  · exact .of_throw_bind trivial
  · refine .after_reading hp (works_scan scans_reading) (fun bases _ _ => ?_) fun _ _ => trivial
    refine .after_orFail (fun _ _ => ?_) fun _ _ => trivial
    rw [ends_bind, ends_lift]
    show Ends ((inMemory policy clock root).createRecord _ >>= fun _ =>
      (inMemory policy clock root).furnish _) _ _ _ _
    unfold createRecord
    rw [ends_bind, ends_bind]
    refine ends_perform hp (fun _ _ hok => ?_) fun fault _ => ?_
    · rw [ends_pure]
      refine ((Vault.hasRecord_of_write hname hok).furnish hp).mono ?_ fun _ _ _ h => h
      rintro _ _ after ⟨rfl, hrecord⟩
      exact ⟨⟨hclean.normal, hne, KnowledgeBase.trimmed_trimmed _⟩, hrecord⟩
    · cases fault <;> exact (ends_throw _).mpr trivial

-- Another subfolder is all that a change of it leaves.
theorem ends_moveTo_settled {raw : String} (hbase : base.IsSettled) :
    Ends ((inMemory policy clock root).moveTo base raw) state vault
      (fun moved _ after => moved.IsSettled ∧ moved = { base with subfolder := moved.subfolder } ∧
        vault.Confined (· = moved.subfolder) after)
      fun _ _ after => after = vault := by
  refine .after_orFail (fun folder hfolder => ?_) fun _ _ => rfl
  split
  · exact (ends_pure base).mpr ⟨hbase, rfl, .refl vault⟩
  · refine .after_reading hp (works_scan scans_reading) (fun bases _ _ => ?_) fun _ _ => rfl
    refine .after_orFail (fun _ _ => ?_) fun _ _ => rfl
    refine .after_reading hp (works_constraints fun _ => serves_reading) (fun _ _ _ => ?_)
      fun _ _ => rfl
    rw [ends_bind]
    refine ends_ask hp (fun _ _ _ => ?_) fun _ _ => rfl
    exact (ends_pure _).mpr ⟨hbase.moved hfolder, rfl,
      vault.confined_createFolder (Path.folder_eq_ok hfolder).2.1⟩

theorem ends_update_returned (change : KnowledgeBaseChange) :
    Ends ((inMemory policy clock root).update name change) state vault
      (fun base _ after => base.IsSettled ∧
        after.HasRecord ((inMemory policy clock root).recordPath base.name) base)
      fun _ _ _ => True := by
  rw [update_eq]
  refine .after_reading hp (works_require fun _ => serves_reading) ?_ fun _ _ => trivial
  rintro base later ⟨hname, text, -, hread⟩
  have hsettled := (KnowledgeBase.isSettled_of_ofRecord hread).applied change
  have hsame := KnowledgeBase.name_of_ofRecord hread
  have hcommit : ∀ {moved : KnowledgeBase} {state : σ} {vault : Vault}, moved.IsSettled →
      moved.name = name → Ends ((inMemory policy clock root).commit name moved) state vault
        (fun base _ after => base.IsSettled ∧
          after.HasRecord ((inMemory policy clock root).recordPath base.name) base)
        fun _ _ _ => True := by
    rintro moved state vault hmoved rfl
    refine (ends_commit_returned hp moved hname).mono ?_ fun _ _ _ h => h
    rintro _ _ after ⟨rfl, hrecord⟩
    exact ⟨hmoved, hrecord⟩
  rw [ends_bind]
  cases change.subfolder with
  | none => exact (ends_pure _).mpr (hcommit hsettled hsame)
  | some raw =>
      refine (ends_moveTo_settled hp hsettled).mono ?_ fun _ _ _ _ => trivial
      rintro moved _ _ ⟨hmoved, heq, -⟩
      exact hcommit hmoved (heq ▸ hsame)

end

-- What an addition or an update returns is found under its name at once, in the form
-- that its record shows.
theorem get_returned (clock : σ → Time.Instant × σ) (root : String) (state : σ) (vault : Vault) :
    let registry := inMemory .allowing clock root
    let finds := fun (base : KnowledgeBase) (next : σ) (after : Vault) =>
      base.createTime.isValid = true →
        0 ≤ base.createTime.date.year ∧ base.createTime.date.year ≤ 9999 →
          (registry.get base.name).run next after = ((.ok (some base.shown), next), after)
    (∀ wish, Ends (registry.add wish) state vault finds fun _ _ _ => True) ∧
      ∀ name change, Ends (registry.update name change) state vault finds fun _ _ _ => True := by
  intro registry finds
  have hfinds : ∀ base next after, base.IsSettled ∧
      after.HasRecord (registry.recordPath base.name) base → finds base next after :=
    fun base next after ⟨hsettled, hrecord⟩ hvalid hyear =>
      run_get_of_hasRecord hrecord (hsettled.ofRecord hvalid hyear)
  have hp : Policy.OnlyRefuses (.allowing : Policy σ) := Policy.onlyRefuses_allowing
  exact ⟨fun wish => (ends_add_returned hp wish).mono hfinds fun _ _ _ h => h,
    fun name change => (ends_update_returned hp change).mono hfinds fun _ _ _ h => h⟩

end

end NoteVault
