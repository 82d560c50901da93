import NoteVault.Proofs.Registry.Listed
import NoteVault.Proofs.Registry.Returned

namespace NoteVault

open Registry Session

-- Whether a call reads a record, or another document of that name.
def Call.readsRecord {α : Type} : Call α → Bool
  | .read path => Path.fileName (Path.normalize path) == recordName
  | _ => false

-- The operations that make, change and list knowledge bases.
def Operation.IsOfRegistry {α : Type} : Operation α → Prop
  | .add _ | .update .. | .list => True
  | _ => False

variable {σ : Type}

namespace Policy

-- Calls reach the vault as they are. Only reads of records may be refused, in any way and
-- at any time.
structure HidesRecords (policy : Policy σ) : Prop where
  refuses : policy.OnlyRefuses
  passes : ∀ {α : Type} (call : Call α), call.readsRecord = false → policy.Passes call

theorem hidesRecords_allowing : HidesRecords (allowing : Policy σ) :=
  ⟨onlyRefuses_allowing, fun _ _ _ => rfl⟩

-- The judge who counts calls and refuses reads of records at some of them.
def withholding (turns : List Nat) (fault : StorageFault) : Policy Nat where
  judge call turn :=
    (if turn ∈ turns ∧ call.readsRecord then .refuse fault else .perform call, turn + 1)

theorem hidesRecords_withholding (turns : List Nat) (fault : StorageFault) :
    HidesRecords (withholding turns fault) := by
  refine ⟨fun call turn => ?_, fun call hreads turn => ?_⟩
  · by_cases hturn : turn ∈ turns ∧ call.readsRecord
    · exact .inr ⟨fault, if_pos hturn⟩
    · exact .inl (if_neg hturn)
  · exact if_neg fun hturn => by simp [hreads] at hturn

end Policy

-- An entry that shows what the record of a knowledge base says: line ends of its texts
-- are blanks there.
def Summary.Shows (entry : Summary) (base : KnowledgeBase) : Prop :=
  { entry with
    description := singleLine entry.description
    subfolder := singleLine entry.subfolder } = base.summary

namespace Vault

-- The entries of the index, if it has any.
def listed (vault : Vault) (root : String) : List Summary :=
  (vault.indexEntries? root).getD []

-- The entries show all knowledge bases on record. All times are such as can be read again.
structure Covers (vault : Vault) (root : String) (entries : List Summary) : Prop where
  tree : vault.IsTree
  plain : ∀ base, vault.Keeps root base → base.createTime.IsPlain
  entriesPlain : ∀ entry ∈ entries, entry.createTime.IsPlain
  shows : ∀ base, vault.Keeps root base → ∃ entry ∈ entries, entry.Shows base

variable {vault after : Vault} {root : String} {entry : Summary} {entries : List Summary}
  {base : KnowledgeBase}

theorem listed_of_files_eq (h : after.files = vault.files) : after.listed root = vault.listed root := by
  rw [listed, listed, indexEntries?, indexEntries?, h]

theorem listed_eq_nil (h : ∀ first rest, vault.indexEntries? root = some (first :: rest) → False) :
    vault.listed root = [] := by
  rw [listed]
  cases hentries : vault.indexEntries? root with
  | none => rfl
  | some entries =>
      cases entries with
      | nil => rfl
      | cons first rest => exact (h first rest hentries).elim

theorem covers_empty (root : String) : Vault.empty.Covers root (Vault.empty.listed root) := by
  have hnone : ∀ base, ¬Vault.empty.Keeps root base := by
    rintro base ⟨-, text, hget, -⟩
    cases hget
  refine ⟨isTree_empty, fun base hb => (hnone base hb).elim, fun entry hentry => ?_,
    fun base hb => (hnone base hb).elim⟩
  cases hentry

namespace Covers

theorem mono (h : vault.Covers root entries) (htree : after.IsTree)
    (hkeeps : ∀ base, after.Keeps root base → vault.Keeps root base) : after.Covers root entries :=
  ⟨htree, fun base hb => h.plain base (hkeeps base hb), h.entriesPlain,
    fun base hb => h.shows base (hkeeps base hb)⟩

theorem withFolder (h : vault.Covers root entries) {path : String} (hclean : Path.Clean path) :
    (vault.perform (.createFolder path)).2.Covers root entries :=
  h.mono ((vault.confined_createFolder hclean).tree h.tree) fun base =>
    (keeps_of_files_eq (vault.files_createFolder path) base).mp

-- Once a record is written, an entry for it is all that the list lacks.
theorem withRecord (h : vault.Covers root entries) (hroot : Path.Clean root) (hne : root ≠ "")
    (hname : KnowledgeBase.checkName base.name = .ok ()) (hbase : base.IsSettled)
    (hplain : base.createTime.IsPlain) :
    (vault.withFile (recordPlace root base.name) base.record).Covers root
      (putEntry base.summary entries) := by
  have hisname := (KnowledgeBase.isName_of_checkName hname).1
  have hread := hbase.ofRecord hplain.valid hplain.year
  refine ⟨h.tree.withFile (clean_recordPlace_of_checkName hroot hne hname) _, fun other ho => ?_,
    fun entry hentry => ?_, fun other ho => ?_⟩
  · rcases keeps_of_withFile base hisname hread ho with rfl | ⟨-, ho⟩
    · exact hplain
    · exact h.plain other ho
  · rcases eq_or_mem_of_mem_putEntry hentry with rfl | hentry
    · exact hplain
    · exact h.entriesPlain entry hentry
  · rcases keeps_of_withFile base hisname hread ho with rfl | ⟨hother, ho⟩
    · exact ⟨base.summary, mem_putEntry_self _ _, rfl⟩
    · obtain ⟨entry, hentry, hshows⟩ := h.shows other ho
      have hsame : entry.name = other.name := congrArg Summary.name hshows
      exact ⟨entry, mem_putEntry_of_ne hentry (hsame.trans_ne hother), hshows⟩

-- Where the entry alone would do, it does in any other list.
theorem putEntry_of_nil (h : vault.Covers root (putEntry entry []))
    (hentries : ∀ entry ∈ entries, entry.createTime.IsPlain) :
    vault.Covers root (putEntry entry entries) := by
  refine ⟨h.tree, h.plain, fun item hitem => ?_, fun base hb => ?_⟩
  · rcases eq_or_mem_of_mem_putEntry hitem with rfl | hitem
    · exact h.entriesPlain _ (mem_putEntry_self _ _)
    · exact hentries item hitem
  · obtain ⟨item, hitem, hshows⟩ := h.shows base hb
    obtain rfl := (eq_or_mem_of_mem_putEntry hitem).resolve_right List.not_mem_nil
    exact ⟨item, mem_putEntry_self _ _, hshows⟩

end Covers

end Vault

section

variable {policy : Policy σ} {clock : σ → Time.Instant × σ} {root name : String} {state : σ}
  {vault : Vault} {entry : Summary} {entries : List Summary} {base : KnowledgeBase}

section

variable (hp : policy.HidesRecords) (hroot : Path.Clean root) (hne : root ≠ "")
include hp hroot hne

omit hp in
theorem readsRecord_indexPath :
    (Call.read (inMemory policy clock root).indexPath).readsRecord = false := by
  refine beq_false_of_ne ?_
  rw [indexPath_inMemory hroot hne, indexPlace, Path.fileName_below (by decide)]
  decide

theorem leads_loadIndex_passing :
    Leads (inMemory policy clock root).loadIndex state vault fun found _ after =>
      after = vault ∧ found = vault.indexEntries? root := by
  have hclean := clean_indexPlace hroot hne
  unfold loadIndex
  rw [leads_bind]
  refine leads_of_passes (hp.passes _ (readsRecord_indexPath hroot hne)) fun next => ?_
  rw [indexPath, root_inMemory, hroot.normal, ← indexPlace,
    Vault.perform_of_clean (by simpa [Call.paths] using hclean), Vault.answer, Vault.indexEntries?]
  cases vault.files.get? (indexPlace root) <;> exact leads_pure.mpr ⟨rfl, rfl⟩

-- A scan does not fail for records that it cannot read. It finds some of those on record.
theorem ends_scan_withholding (hv : vault.IsTree) :
    Ends (inMemory policy clock root).scan state vault
      (fun bases _ after => after = vault ∧ ∀ base ∈ bases, vault.Keeps root base)
      fun _ _ _ => False := by
  have hlist : Settles (listingOf (inMemory policy clock root).storage root) vault _ vault :=
    .listingOf (hp.passes _ rfl) hroot.stays
  rw [hroot.normal, hv.listing_or_empty hne] at hlist
  have hrecord : ∀ folder state, Ends ((inMemory policy clock root).recordIn? folder) state vault
      (fun found _ after => (∀ base, found = some base → vault.recordIn? folder = some base) ∧
        after = vault) fun _ _ _ => False := by
    intro folder state
    unfold Registry.recordIn?
    rw [ends_bind]
    refine ends_perform hp.refuses (fun text next hok => ?_) fun fault next => ?_
    · rw [Vault.perform_question _ (by trivial)]
      refine (ends_pure _).mpr ⟨fun base hb => ?_, rfl⟩
      rw [Vault.recordIn?, hok]
      exact hb
    · exact (ends_pure _).mpr ⟨fun _ h => (nomatch h), rfl⟩
  unfold Registry.scan
  rw [root_inMemory, hroot.normal]
  refine hlist.ends_bind fun next => ?_
  rw [ends_bind]
  refine (ends_mapM fun folder _ state => hrecord folder state).mono ?_ fun _ _ _ h => h
  rintro found later _ ⟨hfound, rfl⟩
  refine (ends_pure _).mpr ⟨rfl, fun base hb => (hv.mem_recorded hne).mp ?_⟩
  rw [List.mem_mergeSort, List.mem_filterMap] at hb
  obtain ⟨value, hvalue, hbase⟩ := hb
  obtain ⟨folder, hfolder, hshown⟩ := hfound value hvalue
  exact List.mem_filterMap.mpr ⟨some base, List.mem_map.mpr ⟨folder, hfolder, hshown base hbase⟩, rfl⟩

-- What the change of a list starts from lacks no more than the index did.
theorem leads_knownEntries_withholding (hv : vault.Covers root (putEntry entry (vault.listed root))) :
    Leads (inMemory policy clock root).knownEntries state vault fun known _ after =>
      after = vault ∧ ∃ entries, known = some entries ∧ vault.Covers root (putEntry entry entries) := by
  unfold knownEntries
  rw [leads_bind]
  refine (leads_loadIndex_passing hp hroot hne).mono ?_
  rintro found next after ⟨rfl, hfound⟩
  split
  · rename_i first entries
    refine leads_pure.mpr ⟨rfl, _, rfl, ?_⟩
    rwa [Vault.listed, ← hfound] at hv
  · rename_i hempty
    rw [Vault.listed_eq_nil (hfound ▸ hempty)] at hv
    rw [leads_bind, leads_run]
    refine (ends_scan_withholding hp hroot hne hv.tree).mono ?_ fun _ _ _ h => h.elim
    rintro bases _ _ ⟨rfl, hbases⟩
    refine leads_pure.mpr ⟨rfl, _, rfl, hv.putEntry_of_nil (createTime_summaries fun base hb => ?_)⟩
    exact hv.plain base (hbases base hb)

theorem leads_saveIndex_passing (hclock : ShowsPlainYears clock)
    (hentries : ∀ entry ∈ entries, entry.createTime.IsPlain) :
    Leads ((inMemory policy clock root).saveIndex entries) state vault fun _ _ after =>
      vault.Confined (· = indexPlace root) after ∧ after.indexEntries? root = some entries := by
  have hclean := clean_indexPlace hroot hne
  unfold saveIndex
  rw [leads_bind]
  refine leads_now ?_
  rw [leads_bind]
  refine leads_of_passes (hp.passes _ rfl) fun next => ?_
  obtain ⟨hvalid, hyear⟩ := hclock state
  have hread : Index.ofDocument? (Index.mk (clock state).1 entries).document =
      some ⟨(clock state).1, entries⟩ := Index.ofDocument?_document ⟨hvalid, hyear⟩ hentries
  rw [indexPath, root_inMemory, hroot.normal, ← indexPlace, Vault.overwrite_of_clean hclean]
  refine leads_pure.mpr ⟨vault.confined_withFile hclean _, ?_⟩
  rw [Vault.indexEntries?, Vault.get?_withFile, if_pos rfl, Option.bind_some, hread]
  rfl

-- Once a record is written, the index is made to cover all records again at the first
-- attempt.
theorem leads_refreshIndex_withholding (hclock : ShowsPlainYears clock)
    (hv : vault.Covers root (putEntry entry (vault.listed root))) (attempts : Nat) :
    Leads ((inMemory policy clock root).refreshIndex entry (attempts + 1)) state vault fun _ _ after =>
      after.Covers root (after.listed root) := by
  unfold refreshIndex
  rw [leads_bind]
  refine (leads_knownEntries_withholding hp hroot hne hv).mono ?_
  rintro _ next _ ⟨rfl, known, rfl, hknown⟩
  dsimp only
  rw [leads_bind]
  refine (leads_saveIndex_passing hp hroot hne hclock hknown.entriesPlain).mono ?_
  rintro _ next after ⟨hconfined, hentries⟩
  have hcovers : after.Covers root (after.listed root) := by
    rw [Vault.listed, hentries, Option.getD_some]
    refine hknown.mono (hconfined.tree hknown.tree) fun base => (hconfined.keeps_iff ?_ base).mp
    rintro _ rfl
    exact not_isRecordPlace_indexPlace root
  unfold isListed
  rw [leads_bind, leads_bind]
  refine (leads_loadIndex_passing hp hroot hne).mono ?_
  rintro found next _ ⟨rfl, rfl⟩
  rw [leads_pure, hentries, Option.getD_some,
    if_pos (List.contains_iff_mem.mpr (mem_putEntry_self entry known))]
  exact leads_pure.mpr hcovers

-- The index follows a record, whether folders are made in between or not.
theorem ends_furnish_covers (hclock : ShowsPlainYears clock)
    (hv : vault.Covers root (putEntry base.summary (vault.listed root)))
    (hname : KnowledgeBase.checkName base.name = .ok ()) (hclean : Path.Clean base.subfolder) :
    Ends ((inMemory policy clock root).furnish base) state vault
      (fun _ _ after => after.Covers root (after.listed root)) fun _ _ _ => False := by
  have hconstraints : Path.Clean ((inMemory policy clock root).constraintFolder base.name) :=
    clean_constraintFolder hroot hne hname
  unfold furnish
  refine (settles_createFolder clock root (hp.passes _ rfl) hconstraints vault).ends_bind fun _ => ?_
  refine (settles_createFolder clock root (hp.passes _ rfl) hclean _).ends_bind fun next => ?_
  rw [ends_bind, ends_liftM]
  refine (leads_refreshIndex_withholding hp hroot hne hclock ?_ 1).mono fun _ _ _ h =>
    (ends_pure base).mpr h
  rw [Vault.listed_of_files_eq (Vault.files_createFolder _ _),
    Vault.listed_of_files_eq (Vault.files_createFolder _ _)]
  exact (hv.withFolder hconstraints).withFolder hclean

theorem ends_commit_covers (hclock : ShowsPlainYears clock) (hv : vault.Covers root (vault.listed root))
    (base : KnowledgeBase) (hsame : base.name = name)
    (hname : KnowledgeBase.checkName name = .ok ()) (hbase : base.IsSettled)
    (hplain : base.createTime.IsPlain) :
    Ends ((inMemory policy clock root).commit name base) state vault
      (fun _ _ after => after.Covers root (after.listed root)) fun _ _ after => after = vault := by
  subst hsame
  unfold commit
  rw [ends_bind]
  refine ends_ask hp.refuses (fun _ next hok => ?_) fun _ _ => rfl
  rw [(Vault.write_ok hok).1, recordPath_inMemory hroot.normal,
    (clean_recordPlace_of_checkName hroot hne hname).normal, ends_bind, ends_liftM]
  refine (leads_refreshIndex_withholding hp hroot hne hclock ?_ 1).mono fun _ _ _ h =>
    (ends_pure base).mpr h
  rw [Vault.listed, vault.indexEntries?_withRecord root _ (KnowledgeBase.isName_of_checkName hname).1]
  exact hv.withRecord hroot hne hname hbase hplain

theorem ends_add_covers (hclock : ShowsPlainYears clock) (hv : vault.Covers root (vault.listed root))
    (wish : NewKnowledgeBase) :
    Ends ((inMemory policy clock root).add wish) state vault
      (fun _ _ after => after.Covers root (after.listed root)) fun _ _ after => after = vault := by
  refine .after_orFail (fun _ hname => ?_) fun _ _ => rfl
  refine .after_orFail (fun folder hfolder => ?_) fun _ _ => rfl
  obtain ⟨-, hclean, hnonempty⟩ := Path.folder_eq_ok hfolder
  refine .after_reading hp.refuses (.ask (by trivial) fun _ h => h) (fun present _ _ => ?_) fun _ _ => rfl
  split
  · exact .of_throw_bind rfl
  refine .after_reading hp.refuses (works_scan scans_reading) (fun bases later _ => ?_) fun _ _ => rfl
  refine .after_orFail (fun _ _ => ?_) fun _ _ => rfl
  rw [ends_bind, ends_lift]
  let base : KnowledgeBase := ⟨wish.name, (clock later).1, wish.description, folder,
    Text.trimmed wish.organizationRules⟩
  show Ends ((inMemory policy clock root).createRecord base >>= fun _ =>
    (inMemory policy clock root).furnish base) _ vault _ _
  rw [ends_bind]
  refine (ends_createRecord hroot hne hp.refuses base hname).mono ?_ fun _ _ _ h => h
  rintro _ next _ ⟨rfl, -⟩
  have hplain : base.createTime.IsPlain := ⟨(hclock later).1, (hclock later).2⟩
  refine (ends_furnish_covers hp hroot hne hclock ?_ hname hclean).mono (fun _ _ _ h => h)
    fun _ _ _ h => h.elim
  rw [Vault.listed, vault.indexEntries?_withRecord root _ (KnowledgeBase.isName_of_checkName hname).1]
  exact hv.withRecord hroot hne hname ⟨hclean.normal, hnonempty, KnowledgeBase.trimmed_trimmed _⟩ hplain

theorem ends_update_covers (hclock : ShowsPlainYears clock) (hv : vault.Covers root (vault.listed root))
    (change : KnowledgeBaseChange) :
    Ends ((inMemory policy clock root).update name change) state vault
      (fun _ _ after => after.Covers root (after.listed root))
      fun _ _ after => after.Covers root (after.listed root) := by
  rw [update_eq, ends_bind]
  refine (ends_require hp.refuses hroot hne).mono ?_ fun _ _ _ h => h ▸ hv
  rintro base next after ⟨rfl, hname, hsame, hkeeps⟩
  have hplain := hv.plain base hkeeps
  obtain ⟨-, text, -, hread⟩ := hkeeps
  have hsettled := (KnowledgeBase.isSettled_of_ofRecord hread).applied change
  rw [ends_bind]
  cases change.subfolder with
  | none =>
      refine (ends_pure _).mpr ((ends_commit_covers hp hroot hne hclock hv (change.applied base)
        hsame hname hsettled hplain).mono (fun _ _ _ h => h) ?_)
      exact fun _ _ _ h => h ▸ hv
  | some raw =>
      refine ((ends_moveTo_settled hp.refuses hsettled).and (ends_moveTo hp.refuses _)).mono ?_
        fun _ _ _ h => h.1 ▸ hv
      rintro moved later middle ⟨⟨hmoved, heq, hconfined⟩, hfiles⟩
      have hmiddle : middle.Covers root (middle.listed root) := by
        rw [Vault.listed_of_files_eq hfiles]
        exact hv.mono (hconfined.tree hv.tree) fun base => (Vault.keeps_of_files_eq hfiles base).mp
      refine (ends_commit_covers hp hroot hne hclock hmiddle moved (heq ▸ hsame) hname hmoved
        (heq ▸ hplain)).mono (fun _ _ _ h => h) ?_
      exact fun _ _ _ h => h ▸ hmiddle

-- A list shows the index as it is. Without one there are no records.
theorem ends_list_withholding (hv : vault.Covers root (vault.listed root)) :
    Ends (inMemory policy clock root).list state vault
      (fun summaries _ after => summaries = vault.listed root ∧ after = vault)
      fun _ _ _ => False := by
  unfold Registry.list
  rw [ends_bind, ends_liftM]
  refine (leads_loadIndex_passing hp hroot hne).mono ?_
  rintro found next after ⟨rfl, hfound⟩
  split
  · refine (ends_pure _).mpr ⟨?_, rfl⟩
    rw [Vault.listed, ← hfound]
    rfl
  · rename_i hempty
    rw [Vault.listed_eq_nil (hfound ▸ hempty)] at hv ⊢
    rw [ends_bind]
    refine (ends_scan_withholding hp hroot hne hv.tree).mono ?_ fun _ _ _ h => h
    rintro bases later _ ⟨rfl, hbases⟩
    have hnil : bases = [] := by
      refine List.eq_nil_iff_forall_not_mem.mpr fun base hb => ?_
      obtain ⟨entry, hentry, -⟩ := hv.shows base (hbases base hb)
      cases hentry
    subst hnil
    exact (ends_pure _).mpr ⟨rfl, rfl⟩

-- Whatever becomes of records that are to be read, and whether an operation succeeds or
-- not, the index shows all that are there.
theorem ends_covers {α : Type} (hclock : ShowsPlainYears clock)
    (hv : vault.Covers root (vault.listed root)) {operation : Operation α}
    (hkind : operation.IsOfRegistry) :
    Ends ((inMemory policy clock root).carryOut operation) state vault
      (fun _ _ after => after.Covers root (after.listed root))
      fun _ _ after => after.Covers root (after.listed root) := by
  cases operation with
  | add wish =>
      exact (ends_add_covers hp hroot hne hclock hv wish).mono (fun _ _ _ h => h) fun _ _ _ h => h ▸ hv
  | update name change => exact ends_update_covers hp hroot hne hclock hv change
  | list =>
      refine (ends_list_withholding hp hroot hne hv).mono ?_ fun _ _ _ h => h.elim
      exact fun _ _ _ h => h.2 ▸ hv
  | _ => exact hkind.elim

theorem covers_carryOutAll (hclock : ShowsPlainYears clock) (hv : vault.Covers root (vault.listed root))
    (orders : List Order) (hkinds : ∀ order ∈ orders, order.2.IsOfRegistry) :
    let reached := vaultAfter ((inMemory policy clock root).carryOutAll orders) state vault
    reached.Covers root (reached.listed root) := by
  induction orders generalizing state vault with
  | nil => exact hv
  | cons order orders ih =>
      obtain ⟨hkind, hkinds⟩ := List.forall_mem_cons.mp hkinds
      have hfirst : Ends ((inMemory policy clock root).carryOut order.2) state vault _ _ :=
        ends_covers hp hroot hne hclock hv hkind
      exact ih hfirst.vaultAfter hkinds

-- However many reads of records failed while knowledge bases were made, changed and
-- listed, once none does a list has an entry for every knowledge base that a scan finds.
theorem list_covers_scan (hclock : ShowsPlainYears clock) (orders : List Order)
    (hkinds : ∀ order ∈ orders, order.2.IsOfRegistry) (state later : σ) :
    let reached := vaultAfter ((inMemory policy clock root).carryOutAll orders) state Vault.empty
    let calm : Registry (Session σ) := inMemory .allowing clock root
    ∃ bases summaries, result calm.scan.run later reached = .ok bases ∧
      result calm.list.run later reached = .ok summaries ∧
      ∀ base ∈ bases, ∃ entry ∈ summaries, entry.Shows base := by
  intro reached calm
  have hcovers : reached.Covers root (reached.listed root) :=
    covers_carryOutAll hp hroot hne hclock (Vault.covers_empty root) orders hkinds
  clear_value reached
  obtain ⟨bases, hscan, hbases, -⟩ := run_scan clock later hcovers.tree hroot hne
  have hlist : Ends calm.list later reached (fun summaries _ _ => summaries = reached.listed root)
      fun _ _ _ => False :=
    (ends_list_withholding Policy.hidesRecords_allowing hroot hne hcovers).mono (fun _ _ _ h => h.1)
      fun _ _ _ h => h
  refine ⟨bases, reached.listed root, by rw [result, hscan], ?_, fun base hb => ?_⟩
  · exact Ends.result (· = .ok (reached.listed root)) (hlist.mono
      (fun _ _ _ h => congrArg Except.ok h) fun _ _ _ h => h.elim)
  · exact hcovers.shows base ((hbases base).mp hb)

end

end

-- No record can be read while the knowledge bases are made, and the one that is to be
-- changed not when it is asked for first.
theorem list_covers_scan_withholding :
    let instant : Time.Instant := ⟨⟨2024, 5, 17⟩, 8, 30, 0, 0⟩
    let clock : Nat → Time.Instant × Nat := fun turn => (instant, turn)
    let registry := inMemory (.withholding (List.range 40) (.notFound "meta.md")) clock ".kb"
    let orders : List Order := [⟨_, .add ⟨"work", "Plans", "notes/work", "Be brief."⟩⟩,
      ⟨_, .add ⟨"home", "Chores\nand meals", "notes/home", ""⟩⟩, ⟨_, .update "work" ⟨some "", none, none⟩⟩,
      ⟨_, .list⟩, ⟨_, .update "work" ⟨some "Drafts", some "drafts", none⟩⟩]
    let reached := vaultAfter (registry.carryOutAll orders) 0 Vault.empty
    let calm : Registry (Session Nat) := inMemory .allowing clock ".kb"
    ∃ bases summaries, result calm.scan.run 60 reached = .ok bases ∧
      result calm.list.run 60 reached = .ok summaries ∧
      ∀ base ∈ bases, ∃ entry ∈ summaries, entry.Shows base := by
  intro instant clock registry orders reached calm
  have hkinds : ∀ order ∈ orders, order.2.IsOfRegistry := by
    simp only [orders, List.forall_mem_cons, Operation.IsOfRegistry]
    exact ⟨trivial, trivial, trivial, trivial, trivial, fun _ h => nomatch h⟩
  have hvalid : instant.isValid = true := by decide
  have hyear : 0 ≤ instant.date.year ∧ instant.date.year ≤ 9999 := by decide
  have hclock : ShowsPlainYears clock := fun _ => ⟨hvalid, hyear⟩
  exact list_covers_scan (Policy.hidesRecords_withholding (List.range 40) (.notFound "meta.md"))
    ⟨by decide, by decide⟩ (by decide) hclock orders hkinds 0 60

end NoteVault
