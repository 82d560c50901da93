import NoteVault.Proofs.Program.Settles
import NoteVault.Proofs.Registry.Documents
import NoteVault.Proofs.Registry.Sound

namespace NoteVault

open Registry Session

-- Whether a call reads or writes the index.
def Call.usesIndex {α : Type} (root : String) : Call α → Bool
  | .read path | .write path .. => Path.normalize path == indexPlace root
  | _ => false

variable {σ α : Type}

namespace Policy

-- Calls reach the vault as they are. Only reads and writes of the index may be refused,
-- in any way and at any time.
structure Spares (policy : Policy σ) (root : String) : Prop where
  refuses : policy.OnlyRefuses
  passes : ∀ {α : Type} (call : Call α), call.usesIndex root = false → policy.Passes call

theorem spares_allowing (root : String) : Spares (allowing : Policy σ) root :=
  ⟨onlyRefuses_allowing, fun _ _ _ => rfl⟩

-- The judge who counts calls and refuses work with the index at some of them.
def sparing (root : String) (turns : List Nat) (fault : StorageFault) : Policy Nat where
  judge call turn :=
    (if turn ∈ turns ∧ call.usesIndex root then .refuse fault else .perform call, turn + 1)

theorem spares_sparing (root : String) (turns : List Nat) (fault : StorageFault) :
    Spares (sparing root turns fault) root := by
  refine ⟨fun call turn => ?_, fun call huses turn => ?_⟩
  · by_cases hturn : turn ∈ turns ∧ call.usesIndex root
    · exact .inr ⟨fault, if_pos hturn⟩
    · exact .inl (if_neg hturn)
  · exact if_neg fun hturn => by simp [huses] at hturn

end Policy

section

variable {root name : String}

theorem normalize_record_ne (folder root : String) :
    Path.normalize (Path.below folder recordName) ≠ indexPlace root := by
  intro h
  refine segments_record_ne folder root ?_
  rw [← Path.segments_normalize (Path.below folder recordName), h, indexPlace]

theorem usesIndex_read_record (folder root : String) :
    (Call.read (Path.below folder recordName)).usesIndex root = false :=
  beq_false_of_ne (normalize_record_ne folder root)

theorem usesIndex_read_recordPath {m : Type → Type} (registry : Registry m) (name root : String) :
    (Call.read (registry.recordPath name)).usesIndex root = false :=
  usesIndex_read_record _ root

theorem usesIndex_write_recordPath {m : Type → Type} (registry : Registry m) (name root text : String)
    (mode : WriteMode) : (Call.write (registry.recordPath name) text mode).usesIndex root = false :=
  beq_false_of_ne (normalize_record_ne _ root)

-- The index has another extension than notes.
theorem isNote_indexPlace (root : String) : Path.isNote (indexPlace root) = false := by
  rw [Bool.eq_false_iff]
  intro h
  have hsuffix := List.isSuffixOf_iff_suffix.mp h
  have hlast := hsuffix.getLast (by decide)
  simp only [indexPlace, Path.below, String.toList_append] at hlast
  rw [List.getLast_append_of_ne_nil _ (by decide)] at hlast
  exact absurd hlast (by decide)

end

section

variable {policy : Policy σ} {clock : σ → Time.Instant × σ} {root name : String} {vault : Vault}
  {base : KnowledgeBase}

namespace Settles

-- A question that passes is answered from the vault, and changes nothing.
theorem question {call : Call α} (h : policy.Passes call) (hquestion : call.IsQuestion) :
    Settles (liftM ((inMemory policy clock root).storage.perform call) : Work (Session σ) _) vault
      (.ok (vault.perform call).1) vault := by
  have hperform := perform clock root h vault
  rwa [Vault.perform_question call hquestion] at hperform

theorem listingOf {folder : String} (hpass : policy.Passes (.list folder))
    (h : Path.hasTraversal folder = false) :
    Settles (Registry.listingOf (inMemory policy clock root).storage folder) vault
      (.ok (if (Path.normalize folder).isEmpty || vault.hasFolder (Path.normalize folder) then
        vault.listing (Path.normalize folder) else .empty)) vault := by
  refine (question hpass (by trivial)).bind ?_
  rw [Vault.list_of_stays h, Vault.answer]
  generalize Path.normalize folder = normal
  cases normal.isEmpty || vault.hasFolder normal <;> exact pure _

theorem recordIn? (folder : String) (hpass : policy.Passes (.read (Path.below folder recordName))) :
    Settles ((inMemory policy clock root).recordIn? folder) vault (.ok (vault.recordIn? folder))
      vault := by
  refine (question hpass (by trivial)).bind ?_
  unfold Vault.recordIn?
  cases (vault.perform (.read (Path.below folder recordName))).1 <;> exact pure _

theorem constraintAt? {path : String} (hpass : policy.Passes (.read path)) :
    Settles ((inMemory policy clock root).constraintAt? name path) vault
      (.ok (vault.constraintAt? name path)) vault := by
  refine (question hpass (by trivial)).bind ?_
  unfold Vault.constraintAt?
  cases (vault.perform (.read path)).1 <;> exact pure _

end Settles

-- A folder at a clean place can always be made.
theorem settles_createFolder (clock : σ → Time.Instant × σ) (root : String) {path : String}
    (hpass : policy.Passes (.createFolder path)) (hclean : Path.Clean path) (vault : Vault) :
    Settles ((inMemory policy clock root).storage.ask (.createFolder path)) vault (.ok ())
      (vault.perform (.createFolder path)).2 := by
  refine .ask hpass ?_
  rw [Vault.perform_of_clean (by simpa [Call.paths] using hclean), Vault.answer]
  split <;> rfl

variable (hp : policy.Spares root)
include hp

section

variable (hroot : Path.Clean root) (hne : root ≠ "")
include hroot hne

-- A scan finds the knowledge bases on record, whatever is done to the index.
theorem settles_scan (hv : vault.IsTree) :
    Settles (inMemory policy clock root).scan vault (.ok (vault.bases root)) vault := by
  have hlist : Settles (listingOf (inMemory policy clock root).storage root) vault _ vault :=
    .listingOf (hp.passes _ rfl) hroot.stays
  unfold Registry.scan Vault.bases Vault.recorded
  rw [root_inMemory, hroot.normal]
  rw [hroot.normal, hv.listing_or_empty hne] at hlist
  exact hlist.bind ((Settles.mapM fun folder _ =>
    .recordIn? folder (hp.passes _ (usesIndex_read_record folder root))).bind (.pure _))

-- So does a search for one of them.
theorem settles_require (hb : vault.Keeps root base)
    (hname : KnowledgeBase.checkName base.name = .ok ()) :
    Settles ((inMemory policy clock root).require base.name) vault (.ok base) vault := by
  obtain ⟨-, text, hget, hrecord⟩ := hb
  have hread : vault.perform (.read ((inMemory policy clock root).recordPath base.name)) =
      (.ok text, vault) := by
    rw [recordPath_inMemory hroot.normal]
    exact Vault.read_of_file (clean_recordPlace_of_checkName hroot hne hname) hget
  have hfound : Settles ((inMemory policy clock root).get base.name) vault (.ok (some base)) vault := by
    unfold Registry.get
    simp only [hname]
    refine (Settles.question (hp.passes _ (usesIndex_read_recordPath _ _ root)) (by trivial)).bind ?_
    rw [hread]
    simp only [hrecord]
    exact .pure _
  exact hfound.bind (.pure base)

theorem settles_require_of_missing (hv : vault.Sound root)
    (h : ∀ base, vault.Keeps root base → base.name ≠ name) :
    Settles ((inMemory policy clock root).require name) vault (.error (.knowledgeBaseNotFound name))
      vault := by
  have hfound : Settles ((inMemory policy clock root).get name) vault (.ok none) vault := by
    unfold Registry.get
    cases hname : KnowledgeBase.checkName name with
    | error fault => exact .pure none
    | ok _ =>
        have hmissing : vault.files.get? (recordPlace root name) = none := by
          rw [← Vault.hasFile_eq_false_iff, Bool.eq_false_iff]
          intro hfile
          obtain ⟨base, hbase, hsame⟩ :=
            hv.readable name (KnowledgeBase.isName_of_checkName hname).1 hfile
          exact h base hbase hsame
        have hclean := clean_recordPlace_of_checkName hroot hne hname
        refine (Settles.question (hp.passes _ (usesIndex_read_recordPath _ _ root)) (by trivial)).bind ?_
        rw [recordPath_inMemory hroot.normal,
          Vault.perform_of_clean (by simpa [Call.paths] using hclean), Vault.answer, hmissing]
        exact .pure none
  exact hfound.bind (.throw _)

-- Nothing hinders a look at the constraints of a knowledge base.
theorem settles_constraints (clock : σ → Time.Instant × σ) (hv : vault.IsTree) (hb : vault.Keeps root base)
    (hname : KnowledgeBase.checkName base.name = .ok ()) :
    ∃ found, Settles ((inMemory policy clock root).constraints base.name) vault (.ok found) vault := by
  have hclean : Path.Clean ((inMemory policy clock root).constraintFolder base.name) :=
    clean_constraintFolder hroot hne hname
  refine ⟨_, (settles_require hp hroot hne hb hname).bind ((Settles.listingOf (hp.passes _ rfl)
    hclean.stays).bind ((Settles.mapM fun path hpath =>
      .constraintAt? (hp.passes _ (beq_false_of_ne ?_))).bind (.pure _)))⟩
  obtain ⟨hlisted, hnote⟩ := List.mem_filter.mp hpath
  have hfile : vault.hasFile path = true := by
    split at hlisted
    · exact (SortedMap.mem_keys _ _).mp (List.mem_of_mem_filter hlisted)
    · cases hlisted
  rw [(hv.file_clean path hfile).normal]
  rintro rfl
  rw [isNote_indexPlace] at hnote
  cases hnote

end

end

end NoteVault
