import NoteVault.Proofs.Registry.Confinement

namespace NoteVault

open Registry Session

def indexPlace (root : String) : String :=
  Path.below root KnowledgeBase.listName

-- The last name of a path tells records from the index.
theorem segments_record_ne (folder root : String) : Path.segments (Path.below folder recordName) ≠
    Path.segments (Path.below root KnowledgeBase.listName) := by
  have hrecord : Path.segments recordName = [recordName.toList] := Path.segments_of_isName (by decide)
  have hindex : Path.segments KnowledgeBase.listName = [KnowledgeBase.listName.toList] :=
    Path.segments_of_isName (by decide)
  intro h
  have hlast := congrArg List.getLast? h
  rw [Path.segments_below, Path.segments_below, hrecord, hindex, List.getLast?_concat,
    List.getLast?_concat] at hlast
  exact absurd hlast (by decide)

-- A folder that a knowledge base of the name may take: it collides neither with
-- the records nor with the subfolder of another one.
structure Vault.Free (vault : Vault) (root name folder : String) : Prop where
  reserved : Path.overlap folder root = false
  apart : ∀ other, vault.Keeps root other → other.name ≠ name →
    Path.overlap folder other.subfolder = false

-- A folder that a knowledge base has or may take, made in the vault.
structure Vault.MakesRoom (vault : Vault) (root : String) (base : KnowledgeBase) (folder : String)
    (after : Vault) : Prop where
  keeps : vault.Keeps root base
  confined : vault.Confined (· = folder) after
  free : folder = base.subfolder ∨ vault.Free root base.name folder

-- The record is in its place, and besides only some places changed.
def Vault.Records (vault : Vault) (root : String) (base : KnowledgeBase) (places : String → Prop)
    (after : Vault) : Prop :=
  (vault.withFile (recordPlace root base.name) base.record).Confined places after

-- The places of what is made along with the record of a new knowledge base.
def IsFurniture (root : String) (base : KnowledgeBase) (path : String) : Prop :=
  path = Path.normalize (Path.below (Path.below root base.name) "folder_constraints") ∨
    path = Path.normalize base.subfolder ∨ path = indexPlace root

variable {σ : Type} {policy : Policy σ} {clock : σ → Time.Instant × σ} {root name : String}
  {state : σ} {vault : Vault} {base : KnowledgeBase}

-- A knowledge base that fulfils a wish and may be put on record.
structure Vault.Admits (vault : Vault) (root : String) (clock : σ → Time.Instant × σ)
    (wish : NewKnowledgeBase) (base : KnowledgeBase) : Prop where
  name : base.name = wish.name
  checked : KnowledgeBase.checkName base.name = .ok ()
  folder : Path.folder wish.subfolder = .ok base.subfolder
  clock : ∃ state, base.createTime = (clock state).1
  free : vault.Free root base.name base.subfolder

-- A knowledge base that is put on record for a wish, where there was no record.
structure Vault.Adds (vault : Vault) (root : String) (clock : σ → Time.Instant × σ)
    (wish : NewKnowledgeBase) (base : KnowledgeBase) (after : Vault) : Prop where
  admits : vault.Admits root clock wish base
  vacant : vault.hasFile (recordPlace root base.name) = false
  records : vault.Records root base (IsFurniture root base) after

theorem clean_indexPlace (hroot : Path.Clean root) (hne : root ≠ "") :
    Path.Clean (indexPlace root) :=
  hroot.below ⟨by decide, by decide⟩ hne (by decide)

theorem indexPath_inMemory (hroot : Path.Clean root) (hne : root ≠ "") :
    Path.normalize (inMemory policy clock root).indexPath = indexPlace root := by
  rw [indexPath, root_inMemory, hroot.normal]
  exact (clean_indexPlace hroot hne).normal

theorem checkExclusive_eq_ok {folder : String} {bases : List KnowledgeBase}
    (hroot : Path.normalize root = root)
    (h : (inMemory policy clock root).checkExclusive name folder bases = .ok ()) :
    Path.overlap folder root = false ∧ ∀ other ∈ bases, other.name ≠ name →
      Path.overlap folder other.subfolder = false := by
  rw [checkExclusive, root_inMemory, hroot] at h
  split at h
  · cases h
  · rename_i hreserved
    split at h
    · cases h
    · rename_i hnone
      refine ⟨by simpa using hreserved, fun other hm hname => ?_⟩
      have hother := List.find?_eq_none.mp hnone other hm
      simpa [hname] using hother

section

variable (hroot : Path.Clean root) (hne : root ≠ "")
include hroot hne

theorem ends_commit_record (hp : policy.OnlyRefuses) (base : KnowledgeBase)
    (hsame : base.name = name) (hname : KnowledgeBase.checkName name = .ok ()) :
    Ends ((inMemory policy clock root).commit name base) state vault
      (fun other _ after => other = base ∧ vault.Records root base (· = indexPlace root) after)
      fun _ _ after => after = vault := by
  subst hsame
  unfold commit
  rw [ends_bind]
  refine ends_ask hp (fun _ next hok => ?_) fun _ _ => rfl
  obtain ⟨hafter, -⟩ := Vault.write_ok hok
  rw [hafter, recordPath_inMemory hroot.normal,
    (clean_recordPlace_of_checkName hroot hne hname).normal, ends_bind]
  have hindexes : (Contract.confined (vault.withFile (recordPlace root base.name) base.record)
      (· = indexPlace root)).Indexes (inMemory policy clock root) :=
    indexes_confined (indexPath_inMemory hroot hne)
  refine ends_lift.mpr ((ends_pure base).mpr ⟨rfl, ?_⟩)
  exact (ends_lift.mp (Works.ends_confined hp (.lift (follows_refreshIndex hindexes _ _)))).2

-- A change of the subfolder takes a free folder and makes it.
theorem ends_moveTo_free (hv : vault.IsTree) {raw : String} :
    Ends ((inMemory .allowing clock root).moveTo base raw) state vault
      (fun other _ after => ∃ folder, Path.folder raw = .ok folder ∧
        other = { base with subfolder := folder } ∧ vault.Confined (· = folder) after ∧
        after.files = vault.files ∧ (folder = base.subfolder ∨ vault.Free root base.name folder))
      fun _ _ after => after = vault := by
  refine .after_orFail (fun folder hfolder => ?_) fun _ _ => rfl
  split
  · rename_i hsame
    exact (ends_pure base).mpr ⟨folder, hfolder, by rw [hsame], .refl vault, rfl, .inl hsame⟩
  · obtain ⟨bases, hscan, hbases, -⟩ := run_scan clock state hv hroot hne
    rw [ends_bind, ends_of_run_ok hscan]
    refine .after_orFail (fun _ hexclusive => ?_) fun _ _ => rfl
    obtain ⟨hreserved, hapart⟩ := checkExclusive_eq_ok hroot.normal hexclusive
    have hfree : vault.Free root base.name folder :=
      ⟨hreserved, fun other ho => hapart other ((hbases other).mpr ho)⟩
    refine .after_reading Policy.onlyRefuses_allowing (works_constraints fun _ => serves_reading)
      (fun _ _ _ => ?_) fun _ _ => rfl
    rw [ends_bind]
    refine ends_ask Policy.onlyRefuses_allowing (fun _ _ _ => ?_) fun _ _ => rfl
    exact (ends_pure _).mpr ⟨folder, hfolder, rfl,
      vault.confined_createFolder (Path.folder_eq_ok hfolder).2.1, vault.files_createFolder folder,
      .inr hfree⟩

-- An update leaves the knowledge base with a subfolder that it had or may take, and
-- its record is the last document that it writes.
theorem ends_update_record (hv : vault.IsTree) (change : KnowledgeBaseChange) :
    Ends ((inMemory .allowing clock root).update name change) state vault
      (fun other _ after => ∃ base folder middle, base.name = name ∧
        vault.MakesRoom root base folder middle ∧ middle.files = vault.files ∧
        middle.Records root other (· = indexPlace root) after ∧
        other = { change.applied base with subfolder := folder } ∧
        (change.subfolder = none ∧ folder = base.subfolder ∨
          ∃ raw, change.subfolder = some raw ∧ Path.folder raw = .ok folder))
      fun _ _ after => after = vault ∨ ∃ base folder, base.name = name ∧
        vault.MakesRoom root base folder after := by
  have hp : Policy.OnlyRefuses (.allowing : Policy σ) := Policy.onlyRefuses_allowing
  rw [update_eq, ends_bind]
  refine (ends_require hp hroot hne).mono ?_ fun _ _ _ h => .inl h
  rintro base next after ⟨rfl, hname, rfl, hkeeps⟩
  rw [ends_bind]
  cases hc : change.subfolder with
  | none =>
      refine (ends_pure _).mpr ((ends_commit_record hroot hne hp (change.applied base) rfl hname).mono
        ?_ fun _ _ _ h => .inl h)
      rintro other _ last ⟨rfl, hrecords⟩
      exact ⟨base, base.subfolder, after, rfl, ⟨hkeeps, .refl after, .inl rfl⟩, rfl, hrecords, rfl,
        .inl ⟨rfl, rfl⟩⟩
  | some raw =>
      refine (ends_moveTo_free hroot hne hv).mono ?_ fun _ _ _ h => .inl h
      rintro moved later middle ⟨folder, hfolder, hmoved, hconfined, hfiles, hfree⟩
      have hroom : after.MakesRoom root base folder middle := ⟨hkeeps, hconfined, hfree⟩
      have hsame : moved.name = base.name := by rw [hmoved, KnowledgeBaseChange.applied]
      refine (ends_commit_record hroot hne hp moved hsame hname).mono ?_ ?_
      · rintro other _ last ⟨rfl, hrecords⟩
        exact ⟨base, folder, middle, rfl, hroom, hfiles, hrecords, hmoved, .inr ⟨raw, rfl, hfolder⟩⟩
      · rintro failure _ last rfl
        exact .inr ⟨base, folder, rfl, hroom⟩

-- What follows the record of a new knowledge base leaves the record alone.
theorem works_furnish (base : KnowledgeBase) :
    (inMemory policy clock root).Works (.confined vault (IsFurniture root base))
      ((inMemory policy clock root).furnish base) (· = base) := by
  have hindexes : (Contract.confined vault (IsFurniture root base)).Indexes
      (inMemory policy clock root) :=
    indexes_confined (.inr (.inr (indexPath_inMemory hroot hne)))
  refine .bind (.ask (fun place hplace => ?_) fun _ h => h) fun _ _ => ?_
  · left
    rw [List.mem_singleton.mp hplace, constraintFolder, folder, root_inMemory, hroot.normal]
  refine .bind (.ask (fun place hplace => ?_) fun _ h => h) fun _ _ => ?_
  · exact .inr (.inl (List.mem_singleton.mp hplace))
  exact .bind (.lift (follows_refreshIndex hindexes _ _)) fun _ _ => .pure rfl

theorem ends_createRecord (hp : policy.OnlyRefuses) (base : KnowledgeBase)
    (hname : KnowledgeBase.checkName base.name = .ok ()) :
    Ends ((inMemory policy clock root).createRecord base) state vault
      (fun _ _ after => after = vault.withFile (recordPlace root base.name) base.record ∧
        vault.hasFile (recordPlace root base.name) = false)
      fun _ _ after => after = vault := by
  unfold createRecord
  rw [ends_bind]
  refine ends_perform hp (fun _ _ hok => ?_) fun fault next => ?_
  · obtain ⟨hafter, hvacant, -⟩ := Vault.write_ok hok
    rw [recordPath_inMemory hroot.normal,
      (clean_recordPlace_of_checkName hroot hne hname).normal] at hafter hvacant
    rw [recordPath_inMemory hroot.normal]
    exact (ends_pure _).mpr ⟨hafter, hvacant rfl⟩
  · cases fault <;> exact (ends_throw _).mpr rfl

-- A new knowledge base may be put on record, and its record is all that matters of
-- what is written, even if the work is broken off later.
theorem ends_add_record (hv : vault.IsTree) (wish : NewKnowledgeBase) :
    Ends ((inMemory .allowing clock root).add wish) state vault
      (fun base _ after => vault.Adds root clock wish base after)
      fun _ _ after => after = vault ∨ ∃ base, vault.Adds root clock wish base after := by
  have hp : Policy.OnlyRefuses (.allowing : Policy σ) := Policy.onlyRefuses_allowing
  refine .after_orFail (fun _ hname => ?_) fun _ _ => .inl rfl
  refine .after_orFail (fun folder hfolder => ?_) fun _ _ => .inl rfl
  refine .after_reading hp (.ask (by trivial) fun _ h => h) (fun present later _ => ?_)
    fun _ _ => .inl rfl
  split
  · exact .of_throw_bind (.inl rfl)
  · obtain ⟨bases, hscan, hbases, -⟩ := run_scan clock later hv hroot hne
    rw [ends_bind, ends_of_run_ok hscan]
    refine .after_orFail (fun _ hexclusive => ?_) fun _ _ => .inl rfl
    obtain ⟨hreserved, hapart⟩ := checkExclusive_eq_ok hroot.normal hexclusive
    rw [ends_bind, ends_lift]
    have hadmits : vault.Admits root clock wish ⟨wish.name, (clock later).1, wish.description, folder,
        Text.trimmed wish.organizationRules⟩ :=
      ⟨rfl, hname, hfolder, ⟨later, rfl⟩, hreserved,
        fun other ho => hapart other ((hbases other).mpr ho)⟩
    show Ends ((inMemory .allowing clock root).createRecord _ >>= fun _ =>
      (inMemory .allowing clock root).furnish _) _ vault _ _
    rw [ends_bind]
    refine (ends_createRecord hroot hne hp _ hname).mono ?_ fun _ _ _ h => .inl h
    rintro _ next after ⟨rfl, hvacant⟩
    refine ((works_furnish hroot hne _).ends_confined hp).mono ?_ ?_
    · rintro other _ last ⟨rfl, hconfined⟩
      exact ⟨hadmits, hvacant, hconfined⟩
    · exact fun _ _ last hconfined => .inr ⟨_, hadmits, hvacant, hconfined⟩

end

end NoteVault
