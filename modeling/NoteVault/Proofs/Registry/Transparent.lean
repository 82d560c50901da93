import NoteVault.Proofs.Registry.Current
import NoteVault.Proofs.Registry.Returned

namespace NoteVault

open Registry Session

-- The descriptions and subfolders that an operation asks for are written on one line.
def Operation.AsksLines {α : Type} : Operation α → Prop
  | .add wish => IsSingleLine wish.description ∧ IsSingleLine wish.subfolder
  | .update _ change => (∀ text, change.description = some text → IsSingleLine text) ∧
      ∀ raw, change.subfolder = some raw → IsSingleLine raw
  | _ => True

theorem KnowledgeBase.IsFaithful.updated {base : KnowledgeBase} (h : base.IsFaithful)
    {change : KnowledgeBaseChange} {folder : String}
    (hdescription : ∀ text, change.description = some text → IsSingleLine text)
    (hrecordable : { change.applied base with subfolder := folder }.IsRecordable) :
    { change.applied base with subfolder := folder }.IsFaithful := by
  refine ⟨hrecordable, h.checked, ?_, ?_, h.plain⟩
  · cases htext : change.description with
    | none => simpa only [KnowledgeBaseChange.applied, htext, Option.getD_none] using h.description
    | some text =>
        simpa only [KnowledgeBaseChange.applied, htext, Option.getD_some] using hdescription text htext
  · cases hrules : change.organizationRules with
    | none =>
        simpa only [KnowledgeBaseChange.applied, hrules, Option.map_none, Option.getD_none] using h.rules
    | some rules =>
        simp only [KnowledgeBaseChange.applied, hrules, Option.map_some, Option.getD_some,
          trimmed_trimmed]

section

variable {σ α : Type} {policy : Policy σ} {clock : σ → Time.Instant × σ} {root name : String}
  {state : σ} {vault : Vault} {base : KnowledgeBase}

-- The subfolders in the ledger are all that an exclusive one has to avoid.
theorem checkExclusive_ledger (hroot : Path.Clean root) {folder : String} :
    (inMemory policy clock root).checkExclusive name folder (vault.bases root) =
      (vault.ledger root).checkExclusive root name folder := by
  rw [checkExclusive_timeless, root_inMemory, hroot.normal, Vault.ledger]

theorem free_of_checkExclusive (hroot : Path.Clean root) (hne : root ≠ "") (hv : vault.IsTree)
    {folder : String} (h : (inMemory policy clock root).checkExclusive name folder (vault.bases root) =
      .ok ()) : vault.Free root name folder := by
  obtain ⟨hreserved, hapart⟩ := checkExclusive_eq_ok hroot.normal h
  exact ⟨hreserved, fun other ho => hapart other ((hv.mem_bases hne).mpr ho)⟩

section

variable (hp : policy.Spares root) (hroot : Path.Clean root) (hne : root ≠ "")
include hp hroot hne

-- The record of a new knowledge base can be written where there is none.
theorem settles_createRecord (hname : KnowledgeBase.checkName base.name = .ok ())
    (hfile : vault.hasFile (recordPlace root base.name) = false) :
    Settles ((inMemory policy clock root).createRecord base) vault (.ok ())
      (vault.withFile (recordPlace root base.name) base.record) := by
  have hperform := Settles.perform clock root (hp.passes _
    (usesIndex_write_recordPath (inMemory policy clock root) base.name root base.record .create)) vault
  rw [recordPath_inMemory hroot.normal,
    Vault.create_of_missing (clean_recordPlace_of_checkName hroot hne hname) hfile] at hperform
  unfold createRecord
  rw [recordPath_inMemory hroot.normal]
  exact hperform.bind (.pure _)

-- Nothing that is made along with the record can fail, and the index follows the record.
theorem ends_furnish_put (hclock : ShowsPlainYears clock) {before : Vault} (hv : before.Current root)
    (hput : before.Puts root base vault) (hbase : base.IsFaithful)
    (hreserved : Path.overlap base.subfolder root = false) :
    Ends ((inMemory policy clock root).furnish base) state vault
      (fun other _ after => other = base ∧ after.Current root ∧
        after.ledger root = (before.ledger root).put base.timeless)
      fun _ _ _ => False := by
  have hconstraints : Path.Clean ((inMemory policy clock root).constraintFolder base.name) :=
    clean_constraintFolder hroot hne hbase.checked
  unfold furnish
  refine (settles_createFolder clock root (hp.passes _ rfl) hconstraints vault).ends_bind fun _ => ?_
  refine (settles_createFolder clock root (hp.passes _ rfl) hbase.clean _).ends_bind fun next => ?_
  have hput := (hput.confined hne ((vault.confined_createFolder hconstraints).mono ?_)).confined hne
    ((Vault.confined_createFolder _ hbase.clean).mono ?_)
  · rw [ends_bind, ends_liftM]
    refine (hput.leads_refreshIndex hp hroot hne hclock hv _).mono fun _ _ _ h => ?_
    exact (ends_pure _).mpr ⟨rfl, h⟩
  · rintro _ rfl
    have hname := (KnowledgeBase.isName_of_checkName hbase.checked).1
    refine isAside_constraints base.name [] ?_
    simp only [constraintFolder, folder, root_inMemory, hroot.normal, Path.segments_below,
      Path.segments_of_isName hname, List.append_assoc, List.cons_append, List.nil_append,
      Path.segments_of_isName (show Path.IsName "folder_constraints".toList by decide)]
  · rintro _ rfl
    exact isAside_of_apart hreserved (Path.isWithin_self _)

-- A new knowledge base is put on record and on the list.
theorem ends_createRecord_put (hclock : ShowsPlainYears clock) (hv : vault.Current root)
    (hbase : base.IsFaithful) (hfree : vault.Free root base.name base.subfolder)
    (hfile : vault.hasFile (recordPlace root base.name) = false) :
    Ends ((inMemory policy clock root).createRecord base >>= fun _ =>
        (inMemory policy clock root).furnish base) state vault
      (fun other _ after => other = base ∧ after.Current root ∧
        after.ledger root = (vault.ledger root).put base.timeless)
      fun _ _ _ => False :=
  (settles_createRecord hp hroot hne hbase.checked hfile).ends_bind fun _ =>
    ends_furnish_put hp hroot hne hclock hv (hv.puts hne hroot hbase hfree) hbase hfree.reserved

-- The same where the knowledge base was on record before.
theorem ends_commit_put (hclock : ShowsPlainYears clock) (hv : vault.Current root)
    (hbase : base.IsFaithful) (hfree : vault.Free root base.name base.subfolder) :
    Ends ((inMemory policy clock root).commit base.name base) state vault
      (fun other _ after => other = base ∧ after.Current root ∧
        after.ledger root = (vault.ledger root).put base.timeless)
      fun _ _ _ => False := by
  have hclean := clean_recordPlace_of_checkName hroot hne hbase.checked
  have hwrite : vault.perform (.write ((inMemory policy clock root).recordPath base.name) base.record
      .overwrite) = (.ok (), vault.withFile (recordPlace root base.name) base.record) := by
    rw [recordPath_inMemory hroot.normal, Vault.overwrite_of_clean hclean]
  unfold commit
  refine (Settles.ask (hp.passes _ (usesIndex_write_recordPath _ _ _ _ _)) hwrite).ends_bind
    fun next => ?_
  rw [ends_bind, ends_liftM]
  refine ((hv.puts hne hroot hbase hfree).leads_refreshIndex hp hroot hne hclock hv _).mono
    fun _ _ _ h => ?_
  exact (ends_pure base).mpr ⟨rfl, h⟩

-- What an addition returns, and what it leaves on record, is what the ledger says.
theorem ends_add_ledger (hclock : ShowsPlainYears clock) (hv : vault.Current root)
    {wish : NewKnowledgeBase} (hdescription : IsSingleLine wish.description)
    (hsubfolder : IsSingleLine wish.subfolder) :
    Ends ((inMemory policy clock root).add wish) state vault
      (fun base _ after => (vault.ledger root).add root wish = .ok base.timeless ∧
        after.Current root ∧ after.ledger root = (vault.ledger root).put base.timeless)
      fun failure _ after => (vault.ledger root).add root wish = .error failure ∧ after = vault := by
  refine .after_orFail (fun _ hname => ?_) fun fault hname => ⟨by rw [Ledger.add, hname]; rfl, rfl⟩
  refine .after_orFail (fun folder hfolder => ?_) fun fault hfolder =>
    ⟨by rw [Ledger.add, hname, hfolder]; rfl, rfl⟩
  have hisname := (KnowledgeBase.isName_of_checkName hname).1
  have hrecord := clean_recordPlace_of_checkName hroot hne hname
  have hpresent : vault.perform (.isPresent ((inMemory policy clock root).recordPath wish.name)) =
      (.ok (vault.hasFile (recordPlace root wish.name)), vault) := by
    rw [recordPath_inMemory hroot.normal, Vault.isPresent_of_clean hrecord (Path.below_ne_empty _ _),
      hv.vacant _ hisname, Bool.or_false]
  refine (Settles.ask (hp.passes _ rfl) hpresent).ends_bind fun next => ?_
  have hnamed := hv.isSome_named? hne hisname
  split
  · rename_i hfile
    rw [Ledger.add_eq hname hfolder, hnamed, hfile]
    exact .of_throw_bind ⟨rfl, rfl⟩
  · rename_i hfile
    rw [Bool.not_eq_true] at hfile
    rw [Ledger.add_eq hname hfolder, hnamed, hfile]
    refine (settles_scan hp hroot hne hv.tree).ends_bind fun next => ?_
    refine .after_orFail (fun _ hexclusive => ?_) fun failure hexclusive => ?_
    · have hfree := free_of_checkExclusive hroot hne hv.tree hexclusive
      rw [checkExclusive_ledger hroot] at hexclusive
      rw [ends_bind, ends_lift]
      show Ends ((inMemory policy clock root).createRecord _ >>= fun _ =>
        (inMemory policy clock root).furnish _) _ vault _ _
      have hadmits : vault.Admits root clock wish ⟨wish.name, (clock next).1, wish.description, folder,
          Text.trimmed wish.organizationRules⟩ := ⟨rfl, hname, hfolder, ⟨next, rfl⟩, hfree⟩
      have hbase : (KnowledgeBase.mk wish.name (clock next).1 wish.description folder
          (Text.trimmed wish.organizationRules)).IsFaithful :=
        ⟨isRecordable_of_admits hclock hsubfolder hadmits, hname, hdescription,
          KnowledgeBase.trimmed_trimmed _, (hclock next).1, (hclock next).2⟩
      refine (ends_createRecord_put hp hroot hne hclock hv hbase hfree hfile).mono ?_
        fun _ _ _ h => h.elim
      rintro _ _ after ⟨rfl, hcurrent, hledger⟩
      refine ⟨?_, hcurrent, hledger⟩
      rw [hexclusive]
      rfl
    · rw [checkExclusive_ledger hroot] at hexclusive
      rw [hexclusive]
      exact ⟨rfl, rfl⟩

-- The subfolder of an updated knowledge base is the one that the ledger gives it.
theorem ends_settle_ledger (hv : vault.Current root) (hb : vault.Keeps root base)
    (change : KnowledgeBaseChange) :
    Ends ((inMemory policy clock root).settle (change.applied base) change.subfolder) state vault
      (fun moved _ after => ∃ folder,
        (vault.ledger root).folderOf root base.timeless change.subfolder = .ok folder ∧
        moved = { change.applied base with subfolder := folder } ∧
        vault.Confined (IsAside root) after ∧ vault.Free root base.name folder ∧
        (folder = base.subfolder ∨ ∃ raw, change.subfolder = some raw ∧ Path.folder raw = .ok folder))
      fun failure _ after =>
        (vault.ledger root).folderOf root base.timeless change.subfolder = .error failure ∧
          after = vault := by
  cases change.subfolder with
  | none => exact (ends_pure _).mpr ⟨base.subfolder, rfl, rfl, .refl vault, hv.free hb, .inl rfl⟩
  | some raw =>
      refine .after_orFail (fun folder hfolder => ?_) fun fault hfolder =>
        ⟨by rw [Ledger.folderOf, hfolder]; rfl, rfl⟩
      split
      · rename_i hsame
        refine (ends_pure _).mpr ⟨folder, ?_, by rw [hsame], .refl vault, hsame ▸ hv.free hb, .inl hsame⟩
        rw [Ledger.folderOf_some hfolder]
        exact if_pos hsame
      · rename_i hmoves
        refine (settles_scan hp hroot hne hv.tree).ends_bind fun next => ?_
        refine .after_orFail (fun _ hexclusive => ?_) fun failure hexclusive => ?_
        · have hfree := free_of_checkExclusive hroot hne hv.tree hexclusive
          have hledger : (vault.ledger root).checkExclusive root base.timeless.name folder = .ok () :=
            (checkExclusive_ledger hroot).symm.trans hexclusive
          obtain ⟨found, hfound⟩ := settles_constraints hp hroot hne clock hv.tree hb
            (hv.faithful base hb).checked
          have hclean := (Path.folder_eq_ok hfolder).2.1
          refine hfound.ends_bind fun _ => (settles_createFolder clock root (hp.passes _ rfl) hclean
            vault).ends_bind fun _ => (ends_pure _).mpr ?_
          refine ⟨folder, ?_, rfl, (vault.confined_createFolder hclean).mono ?_, hfree,
            .inr ⟨raw, rfl, hfolder⟩⟩
          · rw [Ledger.folderOf_some hfolder, hledger]
            exact if_neg hmoves
          · rintro _ rfl
            exact isAside_of_apart hfree.reserved (Path.isWithin_self _)
        · have hledger : (vault.ledger root).checkExclusive root base.timeless.name folder =
              .error failure := (checkExclusive_ledger hroot).symm.trans hexclusive
          rw [Ledger.folderOf_some hfolder, hledger]
          exact ⟨if_neg hmoves, rfl⟩

-- The same of an update.
theorem ends_update_ledger (hclock : ShowsPlainYears clock) (hv : vault.Current root)
    {change : KnowledgeBaseChange}
    (hdescription : ∀ text, change.description = some text → IsSingleLine text)
    (hsubfolder : ∀ raw, change.subfolder = some raw → IsSingleLine raw) :
    Ends ((inMemory policy clock root).update name change) state vault
      (fun base _ after => (vault.ledger root).update root name change = .ok base.timeless ∧
        after.Current root ∧ after.ledger root = (vault.ledger root).put base.timeless)
      fun failure _ after =>
        (vault.ledger root).update root name change = .error failure ∧ after = vault := by
  rw [update_eq]
  by_cases hfound : ∃ base, vault.Keeps root base ∧ base.name = name
  · obtain ⟨base, hb, rfl⟩ := hfound
    have hbase := hv.faithful base hb
    have hnamed := hv.named?_eq_some hne hb
    refine (settles_require hp hroot hne hb hbase.checked).ends_bind fun next => ?_
    rw [ends_bind]
    refine (ends_settle_ledger hp hroot hne hv hb change).mono ?_ ?_
    · rintro moved later middle ⟨folder, hfolder, rfl, hconfined, hfree, horigin⟩
      have hmoved := hbase.updated hdescription
        (isRecordable_of_update hbase.toIsRecordable hsubfolder horigin)
      obtain ⟨hmiddle, hbases⟩ := hv.confined hne hconfined
      have hfree := hfree.confined hconfined fun _ haside hrecord => haside.1 hrecord.isInRecord
      refine (ends_commit_put hp hroot hne hclock hmiddle hmoved hfree).mono ?_ fun _ _ _ h => h.elim
      rintro _ _ after ⟨rfl, hcurrent, hledger⟩
      refine ⟨?_, hcurrent, ?_⟩
      · rw [Ledger.update_eq hnamed, hfolder]
        rfl
      · rw [hledger, Vault.ledger, hbases, Vault.ledger]
    · rintro failure _ _ ⟨hfolder, rfl⟩
      rw [Ledger.update_eq hnamed, hfolder]
      exact ⟨rfl, rfl⟩
  · have hmissing : ∀ base, vault.Keeps root base → base.name ≠ name :=
      fun base hb hsame => hfound ⟨base, hb, hsame⟩
    refine ((settles_require_of_missing hp hroot hne hv.toSound hmissing).bind_error _ state).mono ?_ ?_
    · rintro _ _ _ ⟨h, -⟩
      cases h
    · rintro _ _ _ ⟨⟨⟩, rfl⟩
      refine ⟨?_, rfl⟩
      rw [Ledger.update, hv.named?_eq_none hne hmissing]
      rfl

-- A list is made of the records, and making it changes none of them.
theorem ends_list_current (hclock : ShowsPlainYears clock) (hv : vault.Current root) :
    Ends (inMemory policy clock root).list state vault
      (fun summaries _ after => summaries = (vault.bases root).map KnowledgeBase.summary ∧
        after.Current root ∧ after.ledger root = vault.ledger root)
      fun _ _ _ => False := by
  have hplain : ∀ base ∈ vault.bases root, base.createTime.IsPlain := fun base hb =>
    (hv.faithful base ((hv.tree.mem_bases hne).mp hb)).plain
  have hconfined : Ends (inMemory policy clock root).list state vault _ _ :=
    Works.ends_confined hp.refuses (works_list (indexes_index hroot hne vault))
  refine ((ends_list_lists hp hroot hne hclock hv.tree hplain hv.lists).and hconfined).mono ?_
    fun _ _ _ h => h.1
  rintro summaries _ after ⟨⟨hsummaries, hlists⟩, -, hindex⟩
  obtain ⟨hcurrent, hbases⟩ := hv.toSound.listed hne hindex hlists
  exact ⟨hsummaries, hcurrent, by rw [Vault.ledger, hbases, Vault.ledger]⟩

-- Other work changes neither records nor index.
theorem ends_aside (hv : vault.Current root) {operation : Operation α}
    (hkind : ¬operation.WritesRecord) (htarget : operation.target? ≠ none) :
    Ends ((inMemory policy clock root).carryOut operation) state vault
      (fun _ _ after => after.Current root ∧ after.ledger root = vault.ledger root)
      fun _ _ after => after.Current root ∧ after.ledger root = vault.ledger root := by
  have hcurrent : ∀ after, vault.Confined (IsAside root) after →
      after.Current root ∧ after.ledger root = vault.ledger root := by
    intro after h
    obtain ⟨hcurrent, hbases⟩ := hv.confined hne h
    exact ⟨hcurrent, by rw [Vault.ledger, hbases, Vault.ledger]⟩
  refine (Works.ends_confined hp.refuses (works_confined hroot hne hkind (fun name _ => hv.grants)
    fun hnone => (htarget hnone).elim)).mono ?_ ?_
  · exact fun _ _ after h => hcurrent after h.2
  · exact fun _ _ after h => hcurrent after h

-- Whatever is done, and whatever work with the index is refused, the ledger goes on as
-- if there were no index.
theorem ends_ledger (hclock : ShowsPlainYears clock) (hv : vault.Current root)
    {operation : Operation α} (hlines : operation.AsksLines) :
    Ends ((inMemory policy clock root).carryOut operation) state vault
      (fun _ _ after => after.Current root ∧
        after.ledger root = (vault.ledger root).after root operation)
      fun _ _ after => after.Current root ∧
        after.ledger root = (vault.ledger root).after root operation := by
  cases operation with
  | add wish =>
      refine (ends_add_ledger hp hroot hne hclock hv hlines.1 hlines.2).mono ?_ ?_
      · rintro base _ after ⟨hadd, hcurrent, hledger⟩
        exact ⟨hcurrent, by rw [hledger, Ledger.after, hadd, Ledger.putIfOk]⟩
      · rintro failure _ _ ⟨hadd, rfl⟩
        exact ⟨hv, by rw [Ledger.after, hadd, Ledger.putIfOk]⟩
  | update name change =>
      refine (ends_update_ledger hp hroot hne hclock hv hlines.1 hlines.2).mono ?_ ?_
      · rintro base _ after ⟨hupdate, hcurrent, hledger⟩
        exact ⟨hcurrent, by rw [hledger, Ledger.after, hupdate, Ledger.putIfOk]⟩
      · rintro failure _ _ ⟨hupdate, rfl⟩
        exact ⟨hv, by rw [Ledger.after, hupdate, Ledger.putIfOk]⟩
  | list =>
      refine (ends_list_current hp hroot hne hclock hv).mono ?_ fun _ _ _ h => h.elim
      exact fun _ _ _ h => h.2
  | get | addConstraint | constraints | checkNote | createNote | readNote | updateNote | appendNote
  | moveNote | deleteNote | listNotes =>
      exact ends_aside hp hroot hne hv (fun h => h) (Option.some_ne_none _)

-- So it does however many operations follow each other.
theorem ledger_carryOutAll (hclock : ShowsPlainYears clock) (hv : vault.Current root)
    (orders : List Order) (hlines : ∀ order ∈ orders, order.2.AsksLines) :
    let reached := vaultAfter ((inMemory policy clock root).carryOutAll orders) state vault
    reached.Current root ∧ reached.ledger root = Ledger.afterAll root orders (vault.ledger root) := by
  induction orders generalizing state vault with
  | nil => exact ⟨hv, rfl⟩
  | cons order orders ih =>
      obtain ⟨hline, hlines⟩ := List.forall_mem_cons.mp hlines
      have hfirst : Ends ((inMemory policy clock root).carryOut order.2) state vault _ _ :=
        ends_ledger hp hroot hne hclock hv hline
      obtain ⟨hcurrent, hledger⟩ := hfirst.vaultAfter
      intro reached
      obtain ⟨hreached, hafter⟩ := ih hcurrent hlines
      refine ⟨hreached, ?_⟩
      rw [Ledger.afterAll, List.foldl_cons, ← hledger]
      exact hafter

-- What an addition or an update returns depends on the ledger alone.
theorem map_timeless_add (hclock : ShowsPlainYears clock) (hv : vault.Current root)
    {wish : NewKnowledgeBase} (hlines : (Operation.add wish).AsksLines) :
    (result ((inMemory policy clock root).add wish).run state vault).map KnowledgeBase.timeless =
      (vault.ledger root).add root wish := by
  refine Ends.result (fun outcome => outcome.map KnowledgeBase.timeless = _)
    ((ends_add_ledger hp hroot hne hclock hv hlines.1 hlines.2).mono ?_ ?_)
  · exact fun _ _ _ h => h.1.symm
  · exact fun _ _ _ h => h.1.symm

theorem map_timeless_update (hclock : ShowsPlainYears clock) (hv : vault.Current root)
    {change : KnowledgeBaseChange} (hlines : (Operation.update name change).AsksLines) :
    (result ((inMemory policy clock root).update name change).run state vault).map
        KnowledgeBase.timeless = (vault.ledger root).update root name change := by
  refine Ends.result (fun outcome => outcome.map KnowledgeBase.timeless = _)
    ((ends_update_ledger hp hroot hne hclock hv hlines.1 hlines.2).mono ?_ ?_)
  · exact fun _ _ _ h => h.1.symm
  · exact fun _ _ _ h => h.1.symm

-- Nobody notices what becomes of reads and writes of the index. After any orders a list
-- shows what a scan finds, by name. An addition or an update comes to the same as after
-- the same orders on a vault where nothing is refused, but for the times on the clock.
theorem index_transparent (hclock : ShowsPlainYears clock) (orders : List Order)
    (hlines : ∀ order ∈ orders, order.2.AsksLines) (state : σ) :
    let registry := inMemory policy clock root
    let later := stateAfter (registry.carryOutAll orders) state Vault.empty
    let reached := vaultAfter (registry.carryOutAll orders) state Vault.empty
    (∃ bases, result registry.scan.run later reached = .ok bases ∧
      (bases.Pairwise fun left right => left.name < right.name) ∧
      result registry.list.run later reached = .ok (bases.map KnowledgeBase.summary)) ∧
    ∀ (τ : Type) (calmClock : τ → Time.Instant × τ), ShowsPlainYears calmClock → ∀ start : τ,
      let calm := inMemory .allowing calmClock root
      let calmLater := stateAfter (calm.carryOutAll orders) start Vault.empty
      let calmReached := vaultAfter (calm.carryOutAll orders) start Vault.empty
      (∀ wish, (Operation.add wish).AsksLines →
        (result (registry.add wish).run later reached).map KnowledgeBase.timeless =
          (result (calm.add wish).run calmLater calmReached).map KnowledgeBase.timeless) ∧
      ∀ name change, (Operation.update name change).AsksLines →
        (result (registry.update name change).run later reached).map KnowledgeBase.timeless =
          (result (calm.update name change).run calmLater calmReached).map
            KnowledgeBase.timeless := by
  intro registry later reached
  obtain ⟨hcurrent, hledger⟩ : reached.Current root ∧ reached.ledger root = _ :=
    ledger_carryOutAll hp hroot hne hclock (Vault.current_empty root) orders hlines
  refine ⟨⟨reached.bases root, ?_, hcurrent.tree.byName_bases hne, ?_⟩, ?_⟩
  · refine Ends.result (· = _) ((settles_scan hp hroot hne hcurrent.tree later).mono ?_ ?_)
    · exact fun _ _ _ h => h.1.symm
    · exact fun _ _ _ h => h.1.symm
  · refine Ends.result (· = _) ((ends_list_current hp hroot hne hclock hcurrent).mono ?_ ?_)
    · exact fun _ _ _ h => congrArg Except.ok h.1
    · exact fun _ _ _ h => h.elim
  · intro τ calmClock hcalmClock start calm calmLater calmReached
    have hcalm : Policy.Spares (.allowing : Policy τ) root := Policy.spares_allowing root
    obtain ⟨hcalmCurrent, hcalmLedger⟩ : calmReached.Current root ∧ calmReached.ledger root = _ :=
      ledger_carryOutAll hcalm hroot hne hcalmClock (Vault.current_empty root) orders hlines
    have hsame : reached.ledger root = calmReached.ledger root := hledger.trans hcalmLedger.symm
    refine ⟨fun wish hwish => ?_, fun name change hchange => ?_⟩
    · rw [map_timeless_add hp hroot hne hclock hcurrent hwish, hsame,
        map_timeless_add hcalm hroot hne hcalmClock hcalmCurrent hwish]
    · rw [map_timeless_update hp hroot hne hclock hcurrent hchange, hsame,
        map_timeless_update hcalm hroot hne hcalmClock hcalmCurrent hchange]

end

end

-- A vault where the first hundred calls fail that read or write the index.
theorem index_transparent_refusals :
    let instant : Time.Instant := ⟨⟨2024, 5, 17⟩, 8, 30, 0, 0⟩
    let registry := inMemory (.sparing ".kb" (List.range 100) .inputOutput)
      (fun turn => (instant, turn)) ".kb"
    let calm : Registry (Session Unit) := inMemory .allowing (fun _ => (instant, ())) ".kb"
    let orders : List Order := [⟨_, .add ⟨"work", "Plans", "notes/work", "Be brief."⟩⟩, ⟨_, .list⟩,
      ⟨_, .add ⟨"home", "", "notes/home", ""⟩⟩, ⟨_, .createNote "work" "plan" "Begin."⟩,
      ⟨_, .update "home" ⟨some "Chores", some "chores", none⟩⟩]
    let wish : NewKnowledgeBase := ⟨"team", "Minutes", "notes/team", ""⟩
    let change : KnowledgeBaseChange := ⟨some "Plans and drafts", none, none⟩
    let later := stateAfter (registry.carryOutAll orders) 0 Vault.empty
    let reached := vaultAfter (registry.carryOutAll orders) 0 Vault.empty
    let calmLater := stateAfter (calm.carryOutAll orders) () Vault.empty
    let calmReached := vaultAfter (calm.carryOutAll orders) () Vault.empty
    (∃ bases, result registry.scan.run later reached = .ok bases ∧
      (bases.Pairwise fun left right => left.name < right.name) ∧
      result registry.list.run later reached = .ok (bases.map KnowledgeBase.summary)) ∧
    (result (registry.add wish).run later reached).map KnowledgeBase.timeless =
      (result (calm.add wish).run calmLater calmReached).map KnowledgeBase.timeless ∧
    (result (registry.update "work" change).run later reached).map KnowledgeBase.timeless =
      (result (calm.update "work" change).run calmLater calmReached).map KnowledgeBase.timeless := by
  intro instant registry calm orders wish change later reached calmLater calmReached
  have hlines : ∀ order ∈ orders, order.2.AsksLines := by
    simp only [orders, List.forall_mem_cons, Operation.AsksLines]
    refine ⟨⟨by decide, by decide⟩, trivial, ⟨by decide, by decide⟩, trivial, ⟨?_, ?_⟩,
      fun _ h => nomatch h⟩
    · rintro _ ⟨⟩
      decide
    · rintro _ ⟨⟩
      decide
  have hwish : (Operation.add wish).AsksLines := ⟨by decide, by decide⟩
  have hchange : (Operation.update "work" change).AsksLines := by
    refine ⟨?_, fun _ h => nomatch h⟩
    rintro _ ⟨⟩
    decide
  have hvalid : instant.isValid = true := by decide
  have hyear : 0 ≤ instant.date.year ∧ instant.date.year ≤ 9999 := by decide
  have hclock : ShowsPlainYears fun turn : Nat => (instant, turn) := fun _ => ⟨hvalid, hyear⟩
  have hcalmClock : ShowsPlainYears fun _ : Unit => (instant, ()) := fun _ => ⟨hvalid, hyear⟩
  obtain ⟨hlist, hcalm⟩ := index_transparent (Policy.spares_sparing ".kb" (List.range 100) .inputOutput)
    ⟨by decide, by decide⟩ (by decide) hclock orders hlines 0
  obtain ⟨hadd, hupdate⟩ := hcalm Unit _ hcalmClock ()
  exact ⟨hlist, hadd wish hwish, hupdate "work" change hchange⟩

end NoteVault
