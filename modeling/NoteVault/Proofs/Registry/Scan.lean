import Mathlib.Data.List.Sort
import Mathlib.Data.String.Basic
import NoteVault.Proofs.KnowledgeBase.Record
import NoteVault.Proofs.Path.Child
import NoteVault.Proofs.Program.Exact
import NoteVault.Proofs.Storage.Confined

namespace NoteVault

open Registry Session

-- The place of the record of a name, and of all that is kept beside it.
def recordPlace (root name : String) : String :=
  Path.below (Path.below root name) recordName

-- The vault has a record of the knowledge base that can be read.
def Vault.Keeps (vault : Vault) (root : String) (base : KnowledgeBase) : Prop :=
  Path.IsName base.name.toList ∧ ∃ text, vault.files.get? (recordPlace root base.name) = some text ∧
    KnowledgeBase.ofRecord base.name text = .ok base

-- There is at most one knowledge base of a name.
theorem Vault.Keeps.eq {vault : Vault} {root : String} {base other : KnowledgeBase}
    (hb : vault.Keeps root base) (ho : vault.Keeps root other) (hname : base.name = other.name) :
    base = other := by
  obtain ⟨-, text, hget, hread⟩ := hb
  obtain ⟨-, text', hget', hread'⟩ := ho
  rw [hname, hget', Option.some.injEq] at hget
  subst hget
  rw [hname, hread', Except.ok.injEq] at hread
  exact hread.symm

theorem Vault.keeps_of_files_eq {vault after : Vault} {root : String} (h : after.files = vault.files)
    (base : KnowledgeBase) : after.Keeps root base ↔ vault.Keeps root base := by
  rw [Keeps, Keeps, h]

theorem clean_recordPlace {root name : String} (h : Path.Clean (Path.below root name)) :
    Path.Clean (recordPlace root name) :=
  h.below ⟨by decide, by decide⟩ (Path.below_ne_empty _ _) (by decide)

theorem parent_recordPlace (root name : String) :
    Path.parent (recordPlace root name) = Path.below root name :=
  Path.parent_below (by decide)

namespace Vault

variable {vault : Vault} {root : String}

theorem recordIn?_eq_some {folder : String} {base : KnowledgeBase} :
    vault.recordIn? folder = some base ↔ ∃ text,
      (vault.perform (.read (Path.below folder recordName))).1 = .ok text ∧
        KnowledgeBase.ofRecord (Path.fileName folder) text = .ok base := by
  unfold recordIn?
  cases (vault.perform (.read (Path.below folder recordName))).1 with
  | error fault => simp
  | ok text =>
      simp only [Except.ok.injEq, exists_eq_left']
      cases KnowledgeBase.ofRecord (Path.fileName folder) text with
      | error fault => simp [Except.toOption]
      | ok found => simp [Except.toOption]

-- The knowledge bases whose records are found in folders of the root.
def recorded (vault : Vault) (root : String) : List KnowledgeBase :=
  ((vault.listing root).folders.map vault.recordIn?).filterMap id

-- In a tree the folders in the root are those of the names in it.
theorem IsTree.mem_folders (hv : vault.IsTree) (hne : root ≠ "") {folder : String} :
    folder ∈ (vault.listing root).folders ↔
      vault.hasFolder folder = true ∧ Path.IsName (Path.fileName folder).toList ∧
        folder = Path.below root (Path.fileName folder) := by
  simp only [listing, childrenOf, List.mem_filter, SortedMap.mem_keys, beq_iff_eq]
  constructor
  · rintro ⟨hf, hparent⟩
    have hsplit := Path.eq_below_of_parent (hv.folder_clean folder hf).1.normal (hparent ▸ hne)
    rw [hparent] at hsplit
    exact ⟨hf, hsplit.2, hsplit.1⟩
  · rintro ⟨hf, hname, hsplit⟩
    refine ⟨hf, ?_⟩
    rw [hsplit]
    exact Path.parent_below hname

theorem listing_folders_sorted (vault : Vault) (root : String) :
    (vault.listing root).folders.Pairwise (· < ·) :=
  vault.folders.keys_sorted.filter _

-- In a tree nothing lies in a folder that is missing.
theorem IsTree.listing_of_missing (hv : vault.IsTree) {folder : String} (hne : folder ≠ "")
    (hmissing : vault.hasFolder folder = false) : vault.listing folder = .empty := by
  have hfiles : childrenOf folder vault.files = [] := by
    refine List.filter_eq_nil_iff.mpr fun path hm hparent => ?_
    rw [beq_iff_eq] at hparent
    have hfolder := (hv.file_parent path ((SortedMap.mem_keys _ _).mp hm)).resolve_left
      (hparent ▸ hne)
    rw [hparent, hmissing] at hfolder
    cases hfolder
  have hfolders : childrenOf folder vault.folders = [] := by
    refine List.filter_eq_nil_iff.mpr fun path hm hparent => ?_
    rw [beq_iff_eq] at hparent
    have hfolder := (hv.folder_parent path ((SortedMap.mem_keys _ _).mp hm)).resolve_left
      (hparent ▸ hne)
    rw [hparent, hmissing] at hfolder
    cases hfolder
  rw [listing, hfiles, hfolders, Listing.empty]

-- Hence it makes no difference whether a folder that is missing is listed.
theorem IsTree.listing_or_empty (hv : vault.IsTree) {folder : String} (hne : folder ≠ "") :
    (if folder.isEmpty || vault.hasFolder folder then vault.listing folder else .empty) =
      vault.listing folder := by
  split
  · rfl
  · rename_i hmissing
    rw [Bool.or_eq_true, not_or, Bool.not_eq_true, Bool.not_eq_true] at hmissing
    exact (hv.listing_of_missing hne hmissing.2).symm

-- A record has its folder in the root.
theorem IsTree.mem_folders_of_record (hv : vault.IsTree) (hne : root ≠ "") {name : String}
    (hname : Path.IsName name.toList) (hfile : vault.hasFile (recordPlace root name) = true) :
    Path.below root name ∈ (vault.listing root).folders := by
  have hfolder := (hv.file_parent _ hfile).resolve_left (by
    rw [parent_recordPlace]
    exact Path.below_ne_empty _ _)
  rw [parent_recordPlace] at hfolder
  rw [hv.mem_folders hne, Path.fileName_below hname]
  exact ⟨hfolder, hname, rfl⟩

theorem IsTree.mem_recorded (hv : vault.IsTree) (hne : root ≠ "") {base : KnowledgeBase} :
    base ∈ vault.recorded root ↔ vault.Keeps root base := by
  simp only [recorded, List.mem_filterMap, List.mem_map, id_eq, exists_eq_right]
  constructor
  · rintro ⟨folder, hm, hrecord⟩
    obtain ⟨hfolder, hname, hsplit⟩ := (hv.mem_folders hne).mp hm
    obtain ⟨text, hread, hbase⟩ := recordIn?_eq_some.mp hrecord
    rw [← KnowledgeBase.name_of_ofRecord hbase] at hname hsplit hbase
    subst hsplit
    have hclean := clean_recordPlace (hv.folder_clean _ hfolder).1
    exact ⟨hname, text, (read_eq_ok hclean).mp hread, hbase⟩
  · rintro ⟨hname, text, hget, hbase⟩
    have hfile := hasFile_of_get? hget
    refine ⟨_, hv.mem_folders_of_record hne hname hfile, recordIn?_eq_some.mpr ⟨text, ?_, ?_⟩⟩
    · exact (read_eq_ok (hv.file_clean _ hfile)).mpr hget
    · rwa [Path.fileName_below hname]

-- Folders are listed once, and each gives its name to the knowledge base in it.
theorem IsTree.nodup_recorded (hv : vault.IsTree) (hne : root ≠ "") :
    ((vault.recorded root).map KnowledgeBase.name).Nodup := by
  rw [recorded, List.Nodup, List.pairwise_map, List.pairwise_filterMap, List.pairwise_map]
  refine (vault.listing_folders_sorted root).imp_of_mem ?_
  intro left right hl hr hlt base hb other ho hname
  rw [id_eq] at hb ho
  obtain ⟨-, -, hleft⟩ := (hv.mem_folders hne).mp hl
  obtain ⟨-, -, hright⟩ := (hv.mem_folders hne).mp hr
  obtain ⟨text, -, hbase⟩ := recordIn?_eq_some.mp hb
  obtain ⟨text', -, hother⟩ := recordIn?_eq_some.mp ho
  rw [hleft, hright, ← KnowledgeBase.name_of_ofRecord hbase,
    ← KnowledgeBase.name_of_ofRecord hother, hname] at hlt
  exact String.lt_irrefl _ hlt

end Vault

section

variable {σ : Type} {clock : σ → Time.Instant × σ} {root : String} {state : σ} {vault : Vault}

theorem recordPath_inMemory {policy : Policy σ} {name : String} (hroot : Path.normalize root = root) :
    (inMemory policy clock root).recordPath name = recordPlace root name := by
  rw [recordPath, folder, root_inMemory, hroot]
  rfl

-- A knowledge base on record is found by its name.
theorem run_get (clock : σ → Time.Instant × σ) (state : σ) (hroot : Path.normalize root = root)
    {base : KnowledgeBase} (hname : KnowledgeBase.checkName base.name = .ok ())
    (hclean : Path.Clean (recordPlace root base.name)) (hb : vault.Keeps root base) :
    ((inMemory .allowing clock root).get base.name).run state vault =
      ((.ok (some base), state), vault) := by
  obtain ⟨-, text, hget, hread⟩ := hb
  have hfound : vault.perform (.read (recordPlace root base.name)) = (.ok text, vault) := by
    rw [Vault.perform_of_clean (by simpa [Call.paths] using hclean), Vault.answer, hget]
  unfold Registry.get
  simp only [hname]
  rw [recordPath_inMemory hroot, run_bind_ok run_perform, hfound]
  simp only [hread]
  rfl

-- A scan finds exactly the knowledge bases on record, each once.
theorem run_scan (clock : σ → Time.Instant × σ) (state : σ) (hv : vault.IsTree)
    (hroot : Path.Clean root) (hne : root ≠ "") :
    ∃ bases, (inMemory .allowing clock root).scan.run state vault = ((.ok bases, state), vault) ∧
      (∀ base, base ∈ bases ↔ vault.Keeps root base) ∧ (bases.map KnowledgeBase.name).Nodup := by
  obtain ⟨le, hrun⟩ : ∃ le, (inMemory .allowing clock root).scan.run state vault = ((.ok
      ((((if root.isEmpty || vault.hasFolder root then vault.listing root else .empty).folders.map
        vault.recordIn?).filterMap id).mergeSort le), state), vault) := by
    have hlist : (listingOf (inMemory .allowing clock root).storage root).run state vault = _ :=
      run_listingOf hroot.stays
    rw [hroot.normal] at hlist
    unfold Registry.scan
    rw [root_inMemory, hroot.normal, run_bind_ok hlist,
      run_bind_ok (run_mapM fun folder _ => run_recordIn folder)]
    exact ⟨_, rfl⟩
  rw [hv.listing_or_empty hne] at hrun
  refine ⟨_, hrun, fun base => ?_, ?_⟩
  · rw [List.mem_mergeSort]
    exact hv.mem_recorded hne
  · rw [((List.mergeSort_perm _ _).map _).nodup_iff]
    exact hv.nodup_recorded hne

end

end NoteVault
