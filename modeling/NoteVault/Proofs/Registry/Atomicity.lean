import NoteVault.Proofs.KnowledgeBase.RoundTrip
import NoteVault.Proofs.Program.Ends
import NoteVault.Proofs.Registry.IndexWork
import NoteVault.Proofs.Registry.NoteMap

namespace NoteVault

-- What a successful operation on a note does to the documents of the vault. It
-- creates, replaces, renames or removes one of them and keeps all others.
def Operation.Alters {α : Type} : Operation α → α → (before after : SortedMap String) → Prop
  | .createNote _ _ content, outcome, before, after =>
    before.get? outcome.path = none ∧ ∀ path, after.get? path =
      if path = outcome.path then some content else before.get? path
  | .updateNote _ _ content, outcome, before, after =>
    (before.get? outcome.path).isSome ∧ ∀ path, after.get? path =
      if path = outcome.path then some content else before.get? path
  | .appendNote _ _ addition, outcome, before, after =>
    (before.get? outcome.path).isSome ∧ ∀ path, after.get? path =
      if path = outcome.path then (before.get? outcome.path).map (appended · addition)
      else before.get? path
  | .moveNote .., outcome, before, after =>
    before.get? outcome.path = none ∧ ∃ source, (before.get? source).isSome ∧
      ∀ path, after.get? path = if path = outcome.path then before.get? source
        else if path = source then none else before.get? path
  | .deleteNote .., place, before, after =>
    (before.get? place).isSome ∧ ∀ path, after.get? path =
      if path = place then none else before.get? path
  | _, _, _, _ => True

-- A new knowledge base is made in several steps.
def Operation.IsAddition {α : Type} : Operation α → Prop
  | .add _ => True
  | _ => False

-- What becomes of bindings becomes of the documents that they stand for.
theorem Operation.Rebinds.alters {α : Type} {known : String → KnowledgeBase → Prop}
    {operation : Operation α} {outcome : α} {vault after : Vault}
    (h : operation.Rebinds known (.ok outcome) vault.documents after.documents) :
    operation.Alters outcome vault.files after.files := by
  have hget : ∀ {documents : Documents} {place : String} {text? : Option String},
      after.documents = Function.update documents place text? → ∀ path, after.files.get? path =
        if path = place then text? else documents path := by
    intro documents place text? hafter path
    exact (congrFun hafter path).trans (Function.update_apply documents place text? path)
  generalize hbefore : vault.documents = before at h
  generalize hafter : after.documents = last at h
  cases h with
  | created _ _ hfree =>
      subst hbefore
      exact ⟨hfree, hget hafter⟩
  | updated _ _ hbound =>
      subst hbefore
      exact ⟨Option.isSome_iff_exists.mpr ⟨_, hbound⟩, hget hafter⟩
  | @appended _ _ path old addition _ _ _ _ _ _ hbound htext =>
      subst hbefore
      obtain rfl := continues_iff.mp htext
      have hold : vault.files.get? path = some old := hbound
      refine ⟨Option.isSome_iff_exists.mpr ⟨_, hbound⟩, ?_⟩
      rw [hold]
      exact hget hafter
  | @moved _ _ _ source _ text _ _ _ _ _ _ hbound hfree =>
      subst hbefore
      have htext : vault.files.get? source = some text := hbound
      refine ⟨hfree, source, Option.isSome_iff_exists.mpr ⟨_, hbound⟩, fun path => ?_⟩
      rw [htext, hget hafter path, Function.update_apply]
      rfl
  | deleted _ _ hbound =>
      subst hbefore
      exact ⟨Option.isSome_iff_exists.mpr ⟨_, hbound⟩, hget hafter⟩
  | shown => trivial
  | listed => trivial

namespace Registry

variable {σ : Type} {policy : Policy σ} {clock : σ → Time.Instant × σ} {root name raw : String}
  {state : σ} {vault : Vault}

-- Of an operation on notes it does not matter here for which knowledge base it is.
theorem Ends.alters {α : Type} {operation : Operation α} {work : Work (Session σ) α}
    (h : Ends work state vault
      (fun outcome _ after => operation.Rebinds (fun _ _ => True) (.ok outcome) vault.documents
        after.documents) fun _ _ after => after = vault) :
    Ends work state vault
      (fun outcome _ after => operation.Alters outcome vault.files after.files)
      fun _ _ after => after = vault :=
  h.mono (fun _ _ _ hrebinds => hrebinds.alters) fun _ _ _ hsame => hsame

theorem scans_reading {registry : Registry (Session σ)} : (Contract.reading vault).Scans registry :=
  ⟨trivial, fun _ _ _ _ => trivial⟩

section

variable (hp : policy.OnlyRefuses)
include hp

theorem ends_createNote (content : String) :
    Ends ((inMemory policy clock root).createNote name raw content) state vault
      (fun outcome _ after =>
        (Operation.createNote name raw content).Alters outcome vault.files after.files)
      fun _ _ after => after = vault :=
  Ends.alters (rebinds_createNote hp (fun _ _ _ => trivial) content)

theorem ends_updateNote (content : String) :
    Ends ((inMemory policy clock root).updateNote name raw content) state vault
      (fun outcome _ after =>
        (Operation.updateNote name raw content).Alters outcome vault.files after.files)
      fun _ _ after => after = vault :=
  Ends.alters (rebinds_updateNote hp (fun _ _ _ => trivial) content)

theorem ends_appendNote (addition : String) :
    Ends ((inMemory policy clock root).appendNote name raw addition) state vault
      (fun outcome _ after =>
        (Operation.appendNote name raw addition).Alters outcome vault.files after.files)
      fun _ _ after => after = vault :=
  Ends.alters (rebinds_appendNote hp (fun _ _ _ => trivial) addition)

theorem ends_moveNote (rawTarget : String) :
    Ends ((inMemory policy clock root).moveNote name raw rawTarget) state vault
      (fun outcome _ after =>
        (Operation.moveNote name raw rawTarget).Alters outcome vault.files after.files)
      fun _ _ after => after = vault :=
  Ends.alters (rebinds_moveNote hp (fun _ _ _ => trivial) rawTarget)

theorem ends_deleteNote :
    Ends ((inMemory policy clock root).deleteNote name raw) state vault
      (fun place _ after => (Operation.deleteNote name raw).Alters place vault.files after.files)
      fun _ _ after => after = vault :=
  Ends.alters (rebinds_deleteNote hp fun _ _ _ => trivial)

theorem ends_addConstraint (subfolder : String) (rules : Rules) :
    Ends ((inMemory policy clock root).addConstraint name subfolder rules) state vault
      (fun _ _ _ => True) fun _ _ after => after = vault := by
  refine .after_reading hp (works_require fun _ => serves_reading) (fun base _ _ => ?_) fun _ _ => rfl
  refine .after_orFail (fun folder _ => ?_) fun _ _ => rfl
  split
  · exact .of_throw_bind rfl
  · refine .after_orFail (fun _ _ => ?_) fun _ _ => rfl
    rw [ends_bind]
    refine ends_ask hp (fun _ _ _ => ?_) fun _ _ => rfl
    exact (ends_pure _).mpr trivial

-- A change of the subfolder makes folders at most.
theorem ends_moveTo (base : KnowledgeBase) :
    Ends ((inMemory policy clock root).moveTo base raw) state vault
      (fun _ _ after => after.files = vault.files) fun _ _ after => after.files = vault.files := by
  refine .after_orFail (fun folder _ => ?_) fun _ _ => rfl
  split
  · exact (ends_pure _).mpr rfl
  · refine .after_reading hp (works_scan scans_reading) (fun bases _ _ => ?_) fun _ _ => rfl
    refine .after_orFail (fun _ _ => ?_) fun _ _ => rfl
    refine .after_reading hp (works_constraints fun _ => serves_reading) (fun _ _ _ => ?_)
      fun _ _ => rfl
    rw [ends_bind]
    refine ends_ask hp (fun _ _ _ => ?_) fun _ _ => rfl
    exact (ends_pure _).mpr (Vault.files_createFolder vault folder)

-- The record is written last, and the index that follows it cannot fail.
theorem ends_commit (base : KnowledgeBase) :
    Ends ((inMemory policy clock root).commit name base) state vault (fun _ _ _ => True)
      fun _ _ after => after = vault := by
  unfold commit
  rw [ends_bind]
  refine ends_ask hp (fun _ _ _ => ?_) fun _ _ => rfl
  rw [ends_bind, ends_lift]
  exact (ends_pure _).mpr trivial

theorem ends_update (change : KnowledgeBaseChange) :
    Ends ((inMemory policy clock root).update name change) state vault
      (fun _ _ _ => True) fun _ _ after => after.files = vault.files := by
  rw [update_eq]
  refine .after_reading hp (works_require fun _ => serves_reading) (fun base _ _ => ?_) fun _ _ => rfl
  rw [ends_bind]
  cases change.subfolder with
  | none =>
      refine (ends_pure _).mpr ((ends_commit hp _).mono (fun _ _ _ h => h) ?_)
      exact fun _ _ _ h => congrArg Vault.files h
  | some raw =>
      refine (ends_moveTo hp _).mono (fun moved _ middle hfiles => ?_) fun _ _ _ h => h
      refine (ends_commit hp moved).mono (fun _ _ _ h => h) fun _ _ _ h => ?_
      rw [h, hfiles]

theorem ends_list :
    Ends (inMemory policy clock root).list state vault (fun _ _ _ => True)
      fun _ _ after => after = vault := by
  refine .after_reading hp (.lift (follows_loadIndex (by trivial))) (fun found _ _ => ?_) fun _ _ => rfl
  split
  · exact (ends_pure _).mpr trivial
  · refine .after_reading hp (works_scan scans_reading) (fun bases _ _ => ?_) fun _ _ => rfl
    dsimp only
    split
    · rw [ends_bind, ends_lift]
      exact (ends_pure _).mpr trivial
    · exact (ends_pure _).mpr trivial

theorem ends_readNote :
    Ends ((inMemory policy clock root).readNote name raw) state vault
      (fun note _ after => (Operation.readNote name raw).Alters note vault.files after.files)
      fun _ _ after => after = vault :=
  Ends.alters (rebinds_readNote hp fun _ _ _ => trivial)

theorem ends_listNotes (folder : String) (recursive : Bool) :
    Ends ((inMemory policy clock root).listNotes name folder recursive) state vault
      (fun paths _ after =>
        (Operation.listNotes name folder recursive).Alters paths vault.files after.files)
      fun _ _ after => after = vault :=
  Ends.alters (rebinds_listNotes hp folder recursive)

end

-- What fails before it is done leaves every document as it was, and what is done
-- to notes is done to one document. Only a knowledge base that is made in part
-- may leave a record behind.
theorem carryOut_atomic (hp : policy.OnlyRefuses) {α : Type} (operation : Operation α)
    (hadd : ¬operation.IsAddition) :
    Ends ((inMemory policy clock root).carryOut operation) state vault
      (fun outcome _ after => operation.Alters outcome vault.files after.files)
      fun _ _ after => after.files = vault.files := by
  have keep : ∀ {done : α → σ → Vault → Prop} {work : Work (Session σ) α},
      Ends work state vault done (fun _ _ after => after = vault) →
        Ends work state vault done fun _ _ after => after.files = vault.files :=
    fun h => h.mono (fun _ _ _ hd => hd) fun _ _ _ hf => congrArg Vault.files hf
  cases operation with
  | add => exact (hadd trivial).elim
  | update name change => exact ends_update hp change
  | list => exact keep (ends_list hp)
  | get name =>
      exact keep (((works_get fun _ => serves_reading).ends_reading hp).mono (fun _ _ _ _ => trivial)
        fun _ _ _ h => h)
  | addConstraint name subfolder rules => exact keep (ends_addConstraint hp subfolder rules)
  | constraints name =>
      exact keep (((works_constraints fun _ => serves_reading).ends_reading hp).mono
        (fun _ _ _ _ => trivial) fun _ _ _ h => h)
  | checkNote name path content =>
      exact keep (((works_checkNote fun _ => serves_reading).ends_reading hp).mono
        (fun _ _ _ _ => trivial) fun _ _ _ h => h)
  | createNote name raw content => exact keep (ends_createNote hp content)
  | readNote name raw => exact keep (ends_readNote hp)
  | updateNote name raw content => exact keep (ends_updateNote hp content)
  | appendNote name raw addition => exact keep (ends_appendNote hp addition)
  | moveNote name raw rawTarget => exact keep (ends_moveNote hp rawTarget)
  | deleteNote name raw => exact keep (ends_deleteNote hp)
  | listNotes name folder recursive => exact keep (ends_listNotes hp folder recursive)

-- A note that is to be moved stays where it is when the last of the calls is refused.
theorem moveNote_atomic :
    let registry := inMemory (.refusing [5] .inputOutput)
      (fun turn => (⟨⟨2024, 5, 17⟩, 8, 30, 0, 0⟩, turn)) ".kb"
    let vault := (Vault.empty.withFile ".kb/work/meta.md"
      (KnowledgeBase.bare "work" "notes/work").record).withFile "notes/work/plan.md" "Begin."
    Ends (registry.carryOut (.moveNote "work" "plan" "old/plan")) 0 vault
      (fun outcome _ after => (Operation.moveNote "work" "plan" "old/plan").Alters outcome
        vault.files after.files)
      fun _ _ after => after.files = vault.files :=
  carryOut_atomic (Policy.onlyRefuses_refusing [5] .inputOutput) _ id

end Registry

end NoteVault
