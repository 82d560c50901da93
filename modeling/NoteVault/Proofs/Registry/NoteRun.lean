import NoteVault.Proofs.KnowledgeBase.ReadBack
import NoteVault.Proofs.Registry.FiledAs

namespace NoteVault

open Registry Session

-- An operation with the answer that it had.
abbrev Answered := Σ α : Type, Operation α × Except Failure α

-- What operations one after the other say of documents and do to them.
inductive Evolves (known : String → KnowledgeBase → Prop) :
    List Answered → (before after : Documents) → Prop
  | nil {documents : Documents} : Evolves known [] documents documents
  | cons {α : Type} {operation : Operation α} {answer : Except Failure α} {answers : List Answered}
      {before middle after : Documents} (first : operation.Rebinds known answer before middle)
      (rest : Evolves known answers middle after) :
      Evolves known (⟨α, operation, answer⟩ :: answers) before after

section

variable {σ α : Type}

-- The answers to orders one after the other.
def Registry.answersTo (registry : Registry (Session σ)) : List Order → σ → Vault → List Answered
  | [], _, _ => []
  | order :: orders, state, vault =>
    let work := (registry.carryOut order.2).run
    ⟨order.1, order.2, result work state vault⟩ ::
      registry.answersTo orders (stateAfter work state vault) (vaultAfter work state vault)

-- A subfolder that does not lead out of the vault.
def KnowledgeBase.Stays (base : KnowledgeBase) : Prop :=
  Path.hasTraversal base.subfolder = false

theorem KnowledgeBase.stays_of_ofRecord_record {name : String} {written read : KnowledgeBase}
    (h : written.Stays) (hread : ofRecord name written.record = .ok read) : read.Stays := by
  rw [Stays, subfolder_of_ofRecord_record hread, Path.hasTraversal_normalize, hasTraversal_singleLine]
  exact h

variable {clock : σ → Time.Instant × σ} {root name raw path : String} {state : σ} {vault : Vault}
  {base : KnowledgeBase} {known : String → KnowledgeBase → Prop}

theorem upholds_stays (clock : σ → Time.Instant × σ) (root : String) :
    Upholds root clock KnowledgeBase.Stays where
  added hadmits hread :=
    KnowledgeBase.stays_of_ofRecord_record (Path.folder_eq_ok hadmits.folder).2.1.stays hread
  updated := by
    intro base read change folder hbase hfolder hread
    refine @KnowledgeBase.stays_of_ofRecord_record _ { change.applied base with subfolder := folder }
      read ?_ hread
    rcases hfolder with rfl | ⟨raw, hraw⟩
    · exact hbase
    · exact (Path.folder_eq_ok hraw).2.1.stays

namespace Operation.IsOfNotes

variable {operation : Operation α} (h : operation.IsOfNotes)
include h

theorem asksOneLine : operation.AsksOneLine := by
  cases operation with
  | add | update => exact h.elim
  | _ => trivial

theorem not_writesRecord : ¬operation.WritesRecord := by
  cases operation with
  | add | update => exact h.elim
  | _ => exact id

end Operation.IsOfNotes

section

variable (hbase : ((inMemory .allowing clock root).get name).run state vault =
    ((.ok (some base), state), vault))
  (hstays : base.Stays) (hpath : base.resolveNote raw = .ok path)
include hbase hstays hpath

-- What is bound to the path that is meant is read, and nothing else.
theorem run_readNote {text : String} (hget : vault.files.get? path = some text) :
    ((inMemory .allowing clock root).readNote name raw).run state vault =
      ((.ok ⟨path, text⟩, state), vault) := by
  have hclean := KnowledgeBase.clean_of_resolveNote hstays hpath
  refine (run_bind_ok (run_noteAt hbase hpath) _).trans ?_
  exact run_bind_ok (run_askNote (Vault.read_of_file hclean hget)) _

theorem run_readNote_missing (hget : vault.files.get? path = none) :
    ((inMemory .allowing clock root).readNote name raw).run state vault =
      ((.error (.noteNotFound path), state), vault) := by
  have hclean := KnowledgeBase.clean_of_resolveNote hstays hpath
  have hread : vault.perform (.read path) = (.error (.notFound path), vault) := by
    rw [Vault.perform_of_clean (by simpa [Call.paths] using hclean), Vault.answer, hget]
  have hask : ((inMemory .allowing clock root).askNote (.read path)).run state vault =
      ((.error (.noteNotFound path), state), vault) := by
    unfold askNote
    rw [run_bind_ok run_perform, hread]
    rfl
  exact (run_bind_ok (run_noteAt hbase hpath) _).trans (run_bind_error hask _)

end

-- The knowledge bases of the vault are known by their names, and no others are.
def Vault.Knows (vault : Vault) (root : String) (known : String → KnowledgeBase → Prop) : Prop :=
  ∀ name base, known name base ↔
    KnowledgeBase.checkName name = .ok () ∧ base.name = name ∧ vault.Keeps root base

section

variable (hroot : Path.Clean root) (hne : root ≠ "")
include hroot hne

theorem Vault.Knows.shown (hknows : vault.Knows root known) (base : KnowledgeBase)
    (hname : KnowledgeBase.checkName name = .ok ())
    (hbase : (Contract.reading vault).Shows (inMemory (.allowing : Policy σ) clock root) name base) :
    known name base :=
  (hknows name base).mpr ⟨hname, keeps_of_shows_reading hroot hne hname hbase⟩

theorem rebinds_readNote_known (hv : vault.FiledAs root KnowledgeBase.Stays)
    (hknows : vault.Knows root known) :
    Ends ((inMemory .allowing clock root).readNote name raw) state vault
      (fun note _ after => (Operation.readNote name raw).Rebinds known (.ok note) vault.documents
        after.documents)
      fun failure _ after => (Operation.readNote name raw).Rebinds known (.error failure)
        vault.documents after.documents := by
  by_cases hlocated : ∃ base path, known name base ∧ base.Locates raw path
  · obtain ⟨base, path, hbase, hpath⟩ := hlocated
    have hget : ((inMemory .allowing clock root).get name).run state vault =
        ((.ok (some base), state), vault) := (run_get_iff hroot hne).mpr ((hknows name base).mp hbase)
    have hstays := hv.kind base ((hknows name base).mp hbase).2.2
    cases hnote : vault.files.get? path with
    | some text =>
        rw [ends_of_run_ok (run_readNote hget hstays hpath.resolved hnote)]
        exact .shown hbase hpath hnote
    | none =>
        rw [ends_of_run_error (run_readNote_missing hget hstays hpath.resolved hnote)]
        exact .missing hbase hpath hnote
  · refine (rebinds_readNote Policy.onlyRefuses_allowing
      fun base => hknows.shown hroot hne base).mono (fun _ _ _ h => h) ?_
    rintro failure _ _ rfl
    exact .unlocated fun base path hbase hpath => hlocated ⟨base, path, hbase, hpath⟩

-- An operation on notes does to the documents what it may do to bindings, and no more.
theorem rebinds_carryOut (hv : vault.FiledAs root KnowledgeBase.Stays)
    (hknows : vault.Knows root known) {operation : Operation α} (hnotes : operation.IsOfNotes) :
    Ends ((inMemory .allowing clock root).carryOut operation) state vault
      (fun value _ after => operation.Rebinds known (.ok value) vault.documents after.documents)
      fun failure _ after =>
        operation.Rebinds known (.error failure) vault.documents after.documents := by
  have hp : Policy.OnlyRefuses (.allowing : Policy σ) := Policy.onlyRefuses_allowing
  have hshown : ∀ {name : String} (base : KnowledgeBase), KnowledgeBase.checkName name = .ok () →
      (Contract.reading vault).Shows (inMemory (.allowing : Policy σ) clock root) name base →
        known name base := fun base hname hbase => hknows.shown hroot hne base hname hbase
  -- what is rejected leaves the vault as it is
  have hrejected : ∀ {work : Work (Session σ) α} {done : α → σ → Vault → Prop},
      ¬operation.IsReading → Ends work state vault done (fun _ _ after => after = vault) →
        Ends work state vault done fun failure _ after =>
          operation.Rebinds known (.error failure) vault.documents after.documents := by
    intro work done hchange h
    refine h.mono (fun _ _ _ hd => hd) ?_
    rintro failure _ _ rfl
    exact .rejected hchange
  cases operation with
  | createNote name raw content => exact hrejected id (rebinds_createNote hp hshown content)
  | readNote name raw => exact rebinds_readNote_known hroot hne hv hknows
  | updateNote name raw content => exact hrejected id (rebinds_updateNote hp hshown content)
  | appendNote name raw addition => exact hrejected id (rebinds_appendNote hp hshown addition)
  | moveNote name raw rawTarget => exact hrejected id (rebinds_moveNote hp hshown rawTarget)
  | deleteNote name raw => exact hrejected id (rebinds_deleteNote hp hshown)
  | listNotes name folder recursive => exact hrejected id (rebinds_listNotes hp folder recursive)
  | _ => exact hnotes.elim

theorem evolves_carryOutAll (hv : vault.FiledAs root KnowledgeBase.Stays)
    (hknows : vault.Knows root known) (orders : List Order)
    (hnotes : ∀ order ∈ orders, order.2.IsOfNotes) :
    Evolves known ((inMemory .allowing clock root).answersTo orders state vault) vault.documents
      (vaultAfter ((inMemory .allowing clock root).carryOutAll orders) state vault).documents := by
  induction orders generalizing state vault with
  | nil => exact .nil
  | cons order orders ih =>
      obtain ⟨hfirst, hrest⟩ := List.forall_mem_cons.mp hnotes
      rw [carryOutAll, vaultAfter_bind]
      have hafter : (vaultAfter ((inMemory .allowing clock root).carryOut order.2).run state
          vault).FiledAs root KnowledgeBase.Stays :=
        (ends_filedAs hroot hne (upholds_stays clock root) hv (.inr hfirst.asksOneLine)).vaultAfter
      have hkeeps : ∀ base, (vaultAfter ((inMemory .allowing clock root).carryOut order.2).run state
          vault).Keeps root base ↔ vault.Keeps root base :=
        (ends_keeps_iff hroot hne hv.reserved hfirst.not_writesRecord).vaultAfter
      refine .cons ((rebinds_carryOut hroot hne hv hknows hfirst).holds_outcome
        fun answer after => order.2.Rebinds known answer vault.documents after.documents) ?_
      exact ih hafter (fun name base => by rw [hkeeps, hknows name base]) hrest

-- Whatever was ordered since the vault was empty, notes then behave as bindings of paths to
-- texts, whatever operations on notes follow. All other documents stay as they are.
theorem notes_evolve (orders : List Order)
    (hlines : ' ' ∉ root.toList ∨ ∀ order ∈ orders, order.2.AsksOneLine) (state : σ)
    (work : List Order) (hnotes : ∀ order ∈ work, order.2.IsOfNotes) :
    let registry := inMemory .allowing clock root
    let later := stateAfter (registry.carryOutAll orders) state Vault.empty
    let reached := vaultAfter (registry.carryOutAll orders) state Vault.empty
    let known := fun name base =>
      (registry.get name).run later reached = ((.ok (some base), later), reached)
    Evolves known (registry.answersTo work later reached) reached.documents
      (vaultAfter (registry.carryOutAll work) later reached).documents := by
  intro registry later reached known
  have hv : reached.FiledAs root KnowledgeBase.Stays :=
    filedAs_carryOutAll hroot hne (upholds_stays clock root) (filedAs_empty root _) orders hlines
  have hknows : reached.Knows root known := fun name base => run_get_iff hroot hne
  exact evolves_carryOutAll hroot hne hv hknows work hnotes

end

end

-- A note that is written, continued, read, moved, looked for in vain, listed and removed.
theorem notes_evolve_plan :
    let registry : Registry (Session Unit) :=
      inMemory .allowing (fun _ => (⟨⟨2024, 5, 17⟩, 8, 30, 0, 0⟩, ())) ".kb"
    let orders : List Order := [⟨_, .add ⟨"team", "", "notes/team", ""⟩⟩]
    let work : List Order := [⟨_, .createNote "team" "plan" "Begin."⟩,
      ⟨_, .appendNote "team" "plan" "End."⟩, ⟨_, .readNote "team" "plan"⟩,
      ⟨_, .moveNote "team" "plan" "old/plan"⟩, ⟨_, .readNote "team" "plan"⟩,
      ⟨_, .listNotes "team" "" true⟩, ⟨_, .deleteNote "team" "notes/team/old/plan.md"⟩]
    let later := stateAfter (registry.carryOutAll orders) () Vault.empty
    let reached := vaultAfter (registry.carryOutAll orders) () Vault.empty
    let known := fun name base =>
      (registry.get name).run later reached = ((.ok (some base), later), reached)
    (∀ order ∈ work, order.2.IsOfNotes) ∧
    Evolves known (registry.answersTo work later reached) reached.documents
      (vaultAfter (registry.carryOutAll work) later reached).documents := by
  intro registry orders work later reached known
  have hnotes : ∀ order ∈ work, order.2.IsOfNotes := by
    simp [work, Operation.IsOfNotes]
  exact ⟨hnotes, notes_evolve ⟨by decide, by decide⟩ (by decide) orders (.inl (by decide)) () work hnotes⟩

end NoteVault
