import NoteVault.Proofs.Registry.Filed
import NoteVault.Proofs.Registry.Gate
import NoteVault.Proofs.Registry.Sound

namespace NoteVault

open Registry Session

variable {σ : Type} {policy : Policy σ} {clock : σ → Time.Instant × σ} {root : String} {state : σ}
  {vault : Vault}

theorem result_of_run {α : Type} {program : Session σ α} {value : α} {next : σ} {after : Vault}
    (h : program state vault = ((value, next), after)) : result program state vault = value :=
  congrArg (fun ended => ended.1.1) h

-- What a folder collides with is one of the knowledge bases it is checked against.
theorem mem_of_checkExclusive {registry : Registry (Session σ)} {name folder taken other owned : String}
    {bases : List KnowledgeBase}
    (h : registry.checkExclusive name folder bases = .error (.subfolderOverlap taken other owned)) :
    ∃ base ∈ bases, base.name = other ∧ base.subfolder = owned := by
  unfold checkExclusive at h
  split at h
  · cases h
  · split at h
    · rename_i base hfind
      cases h
      exact ⟨base, List.mem_of_find?_eq_some hfind, rfl, rfl⟩
    · cases h

theorem checkExclusive_ne_notFound {registry : Registry (Session σ)} {name folder missing : String}
    {bases : List KnowledgeBase} :
    registry.checkExclusive name folder bases ≠ .error (.knowledgeBaseNotFound missing) := by
  unfold checkExclusive
  split
  · exact fun h => nomatch h
  · split <;> exact fun h => nomatch h

-- Once its folder is found free, an addition fails by the vault or by a record of its name.
theorem ends_settle_new (hp : policy.OnlyRefuses) (base : KnowledgeBase) :
    Ends ((inMemory policy clock root).createRecord base >>= fun _ =>
        (inMemory policy clock root).furnish base) state vault (fun _ _ _ => True)
      fun failure _ _ => failure = .knowledgeBaseExists base.name ∨ ∃ fault, failure = .storage fault := by
  unfold createRecord furnish
  rw [ends_bind, ends_bind]
  refine ends_perform hp (fun _ _ _ => ?_) fun fault _ => ?_
  · rw [ends_pure, ends_bind]
    refine ends_ask hp (fun _ _ _ => ?_) fun fault _ => .inr ⟨fault, rfl⟩
    rw [ends_bind]
    refine ends_ask hp (fun _ _ _ => ?_) fun fault _ => .inr ⟨fault, rfl⟩
    rw [ends_bind, ends_lift]
    exact (ends_pure base).mpr trivial
  · split
    · rename_i heq
      cases heq
    · exact (ends_throw _).mpr (.inl rfl)
    · exact (ends_throw _).mpr (.inr ⟨_, rfl⟩)

section

variable (hv : vault.IsTree) (hroot : Path.Clean root) (hne : root ≠ "")
include hv hroot hne

theorem run_scan_bases (clock : σ → Time.Instant × σ) (state : σ) :
    (inMemory .allowing clock root).scan.run state vault =
      ((.ok (vault.bases root), state), vault) := by
  have hlist : (listingOf (inMemory .allowing clock root).storage root).run state vault = _ :=
    run_listingOf hroot.stays
  rw [hroot.normal, hv.listing_or_empty hne] at hlist
  unfold Registry.scan
  rw [root_inMemory, hroot.normal, run_bind_ok hlist,
    run_bind_ok (run_mapM fun folder _ => run_recordIn folder)]
  rfl

-- An addition collides with nothing but what a scan shows.
theorem ends_add_overlap (wish : NewKnowledgeBase) :
    Ends ((inMemory .allowing clock root).add wish) state vault (fun _ _ _ => True)
      fun failure _ _ => ∀ folder name owned, failure = .subfolderOverlap folder name owned →
        ∃ base ∈ vault.bases root, base.name = name ∧ base.subfolder = owned := by
  have hp : Policy.OnlyRefuses (.allowing : Policy σ) := Policy.onlyRefuses_allowing
  refine .after_orFail (fun _ _ => ?_) fun _ _ _ _ _ h => nomatch h
  refine .after_orFail (fun folder _ => ?_) fun _ _ _ _ _ h => nomatch h
  rw [ends_bind]
  refine ends_ask hp (fun present next _ => ?_) fun _ _ _ _ _ h => nomatch h
  rw [Vault.perform_question _ (by trivial)]
  split
  · exact .of_throw_bind fun _ _ _ h => nomatch h
  · rw [ends_bind, ends_of_run_ok (run_scan_bases hv hroot hne clock next)]
    refine .after_orFail (fun _ _ => ?_) fun fault hfault _ _ _ h => ?_
    · rw [ends_bind, ends_lift]
      refine (ends_settle_new hp _).mono (fun _ _ _ h => h) ?_
      rintro failure _ _ (rfl | ⟨fault, rfl⟩) _ _ _ h
      · cases h
      · cases h
    · exact mem_of_checkExclusive (hfault.trans (congrArg Except.error h))

-- What is found by its name is there to be updated by it.
theorem ends_update_found {base : KnowledgeBase}
    (hbase : ∀ state, ((inMemory .allowing clock root).get base.name).run state vault =
      ((.ok (some base), state), vault)) (change : KnowledgeBaseChange) :
    Ends ((inMemory .allowing clock root).update base.name change) state vault
      (fun changed _ _ => changed.name = base.name)
      fun failure _ _ => ∀ name, failure ≠ .knowledgeBaseNotFound name := by
  have hp : Policy.OnlyRefuses (.allowing : Policy σ) := Policy.onlyRefuses_allowing
  have hcommit : ∀ (changed : KnowledgeBase) state vault, changed.name = base.name →
      Ends ((inMemory .allowing clock root).commit base.name changed) state vault
        (fun changed _ _ => changed.name = base.name)
        fun failure _ _ => ∀ name, failure ≠ .knowledgeBaseNotFound name := by
    intro changed state vault hname
    unfold commit
    rw [ends_bind]
    refine ends_ask hp (fun _ _ _ => ?_) fun _ _ _ h => nomatch h
    rw [ends_bind, ends_lift]
    exact (ends_pure changed).mpr hname
  rw [update_eq, ends_bind, ends_of_run_ok (run_require (hbase state)), ends_bind]
  cases change.subfolder with
  | none => exact (ends_pure _).mpr (hcommit _ _ _ rfl)
  | some raw =>
      obtain ⟨constraints, hconstraints⟩ := exists_constraints (hbase state)
      refine .after_orFail (fun folder _ => ?_) fun _ _ _ h => nomatch h
      split
      · exact (ends_pure _).mpr (hcommit _ _ _ rfl)
      · rw [ends_bind, ends_of_run_ok (run_scan_bases hv hroot hne clock state)]
        refine .after_orFail (fun _ _ => ?_) fun fault hfault name h => ?_
        · rw [ends_bind]
          refine (ends_of_run_ok hconstraints).mpr ?_
          rw [ends_bind]
          refine ends_ask hp (fun _ _ _ => ?_) fun _ _ _ h => nomatch h
          exact (ends_pure _).mpr (hcommit _ _ _ rfl)
        · exact checkExclusive_ne_notFound (hfault.trans (congrArg Except.error h))

end

-- What a scan shows, by name and each name once, is what is found by its name, but for
-- records in folders whose names no knowledge base may have. Additions collide only with
-- what a scan shows, and what is found can be updated.
theorem scan_matches_get (hv : vault.Reachable) (hroot : Path.Clean root) (hne : root ≠ "")
    (clock : σ → Time.Instant × σ) (state : σ) :
    let registry := inMemory .allowing clock root
    ∃ bases, registry.scan.run state vault = ((.ok bases, state), vault) ∧
      ByName KnowledgeBase.name bases ∧
      (∀ base, (registry.get base.name).run state vault = ((.ok (some base), state), vault) ↔
        base ∈ bases ∧ KnowledgeBase.checkName base.name = .ok ()) ∧
      (∀ wish, Ends (registry.add wish) state vault (fun _ _ _ => True)
        fun failure _ _ => ∀ folder name owned, failure = .subfolderOverlap folder name owned →
          ∃ base ∈ bases, base.name = name ∧ base.subfolder = owned) ∧
      ∀ base ∈ bases, KnowledgeBase.checkName base.name = .ok () → ∀ change,
        Ends (registry.update base.name change) state vault
          (fun changed _ _ => changed.name = base.name)
          fun failure _ _ => ∀ name, failure ≠ .knowledgeBaseNotFound name := by
  have htree := hv.isTree
  have hget : ∀ (base : KnowledgeBase) (state : σ),
      ((inMemory .allowing clock root).get base.name).run state vault =
        ((.ok (some base), state), vault) ↔
          base ∈ vault.bases root ∧ KnowledgeBase.checkName base.name = .ok () := by
    intro base state
    rw [run_get_iff hroot hne, htree.mem_bases hne]
    constructor
    · rintro ⟨hname, -, hkeeps⟩
      exact ⟨hkeeps, hname⟩
    · rintro ⟨hkeeps, hname⟩
      exact ⟨hname, rfl, hkeeps⟩
  exact ⟨vault.bases root, run_scan_bases htree hroot hne clock state, htree.byName_bases hne,
    fun base => hget base state, fun wish => ends_add_overlap htree hroot hne wish,
    fun base hbase hname change =>
      ends_update_found htree hroot hne (fun state => (hget base state).mpr ⟨hbase, hname⟩) change⟩

-- A vault with the record of one knowledge base.
theorem scan_matches_get_team :
    let team : KnowledgeBase := .bare "team" "docs"
    let registry : Registry (Session Unit) := inMemory .allowing (fun _ => (team.createTime, ())) ".kb"
    let vault := Vault.empty.withFile (recordPlace ".kb" "team") team.record
    vault.Reachable ∧ Path.Clean ".kb" ∧ ".kb" ≠ "" ∧
      result registry.scan.run () vault = .ok [team] ∧
      (registry.get team.name).run () vault = ((.ok (some team), ()), vault) := by
  intro team registry vault
  have hv : vault.Reachable := Vault.Reachable.empty.withFile ⟨by decide, by decide⟩ _
  have hroot : Path.Clean ".kb" := ⟨by decide, by decide⟩
  have hscan : result registry.scan.run () vault = .ok [team] := by decide +kernel
  refine ⟨hv, hroot, by decide, hscan, ?_⟩
  obtain ⟨bases, hrun, -, hget, -⟩ :=
    scan_matches_get hv hroot (by decide) (fun _ => (team.createTime, ())) ()
  obtain rfl := Except.ok.inj ((result_of_run hrun).symm.trans hscan)
  exact (hget team).mpr ⟨List.mem_singleton_self team, by decide⟩

-- A record in a folder whose name starts with a dot is shown, and additions collide with
-- it, but it is not found by its name and cannot be updated.
theorem scan_shows_unnamed :
    let home : KnowledgeBase := .bare ".home" "notes"
    let registry : Registry (Session Unit) := inMemory .allowing (fun _ => (home.createTime, ())) ".kb"
    let vault := Vault.empty.withFile (recordPlace ".kb" ".home") home.record
    vault.Reachable ∧ result registry.scan.run () vault = .ok [home] ∧
      result (registry.get home.name).run () vault = .ok none ∧
      result (registry.update home.name ⟨some "Home.", none, none⟩).run () vault =
        .error (.knowledgeBaseNotFound home.name) ∧
      result (registry.add ⟨"work", "", "notes/work", ""⟩).run () vault =
        .error (.subfolderOverlap "notes/work" home.name home.subfolder) := by
  intro home registry vault
  refine ⟨Vault.Reachable.empty.withFile ⟨by decide, by decide⟩ _, ?_, ?_, ?_, ?_⟩
  · decide +kernel
  · decide +kernel
  · decide +kernel
  · decide +kernel

end NoteVault
