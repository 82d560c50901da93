import NoteVault.Proofs.KnowledgeBase.RoundTrip
import NoteVault.Proofs.Registry.Atomicity
import NoteVault.Proofs.Registry.Scan

namespace NoteVault

open Registry Session

variable {σ : Type} {clock : σ → Time.Instant × σ} {root name : String} {state : σ} {vault : Vault}
  {base : KnowledgeBase}

-- What a mutation starts from: the place of the document that it would store, the
-- document, and the place that it would leave.
inductive Operation.Proposes (base : KnowledgeBase) (vault : Vault) :
    Operation NoteOutcome → (path text : String) → Option String → Prop
  | create {raw content path : String} (hpath : base.resolveNote raw = .ok path)
      (hfile : vault.hasFile path = false) (hfolder : vault.hasFolder path = false) :
      Proposes base vault (.createNote base.name raw content) path content none
  | update {raw content path : String} (hpath : base.resolveNote raw = .ok path)
      (hfile : vault.hasFile path = true) :
      Proposes base vault (.updateNote base.name raw content) path content none
  | append {raw addition path old text : String} (hpath : base.resolveNote raw = .ok path)
      (hold : vault.files.get? path = some old) (htext : Continues old addition text) :
      Proposes base vault (.appendNote base.name raw addition) path text none
  | move {rawSource rawTarget source target text : String}
      (hsource : base.resolveNote rawSource = .ok source)
      (htarget : base.resolveNote rawTarget = .ok target)
      (htext : vault.files.get? source = some text) (hfile : vault.hasFile target = false)
      (hfolder : vault.hasFolder target = false) :
      Proposes base vault (.moveNote base.name rawSource rawTarget) target text (some source)

-- The check of a document by the nearest of the constraints. Without one there is
-- nothing to check; otherwise the document passes when there are no issues.
def Constraint.verdict (constraints : List Constraint) (path text : String) :
    Except (List Issue) (Option (String × Validation)) :=
  match Constraint.applicable? path constraints with
  | none => .ok none
  | some constraint =>
    let validation := Validation.ofNote constraint.rules path text
    if validation.issues.isEmpty then .ok (some (constraint.subfolder, validation))
    else .error validation.issues

-- The vault after a document takes its place and leaves another.
def Vault.withMoved (vault : Vault) (path text : String) : Option String → Vault
  | some source => (vault.withoutFile source).withFile path text
  | none => vault.withFile path text

theorem Vault.get?_withMoved (path text other : String) (source? : Option String) :
    (vault.withMoved path text source?).files.get? other =
      if other = path then some text
      else if some other = source? then none else vault.files.get? other := by
  cases source? with
  | none => simp only [withMoved, get?_withFile, reduceCtorEq, ite_false]
  | some source => simp only [withMoved, get?_withFile, get?_withoutFile, Option.some.injEq]

section

variable (hbase : ((inMemory .allowing clock root).get name).run state vault =
  ((.ok (some base), state), vault))
include hbase

theorem run_require :
    ((inMemory .allowing clock root).require name).run state vault = ((.ok base, state), vault) := by
  unfold Registry.require
  rw [run_bind_ok hbase]
  rfl

theorem recorded_of_get : ∃ text, KnowledgeBase.ofRecord name text = .ok base ∧
    (vault.perform (.read ((inMemory .allowing clock root).recordPath name))).1 = .ok text := by
  have hends : Ends ((inMemory .allowing clock root).get name) state vault
      (fun found _ _ => ∀ base, found = some base → KnowledgeBase.checkName name = .ok () ∧
        (Contract.reading vault).Shows (inMemory .allowing clock root) name base)
      fun _ _ _ => True :=
    ((works_get fun _ => serves_reading).ends_reading Policy.onlyRefuses_allowing).mono
      (fun _ _ _ hend => hend.1) fun _ _ _ _ => trivial
  rw [ends_of_run_ok hbase] at hends
  obtain ⟨-, text, hread | ⟨fault, hread⟩, hrecord⟩ := hends base rfl
  · exact ⟨text, hrecord, hread.symm⟩
  · cases hread

-- A record that was read shows that the folder around it does not climb.
theorem hasTraversal_folder_of_get :
    Path.hasTraversal ((inMemory .allowing clock root).folder name) = false := by
  obtain ⟨text, -, hread⟩ := recorded_of_get hbase
  have hstays := (Vault.read_ok hread).1.stays
  rw [Path.hasTraversal_normalize] at hstays
  rw [Bool.eq_false_iff, ne_eq, Path.hasTraversal_iff] at hstays ⊢
  rw [recordPath, Path.segments_below] at hstays
  exact fun hm => hstays (List.mem_append_left _ hm)

-- All constraints of a knowledge base on record can be asked for.
theorem exists_constraints : ∃ constraints,
    ((inMemory .allowing clock root).constraints name).run state vault =
      ((.ok constraints, state), vault) := by
  have hstays : Path.hasTraversal ((inMemory .allowing clock root).constraintFolder name) = false := by
    have hfolder := hasTraversal_folder_of_get hbase
    rw [Bool.eq_false_iff, ne_eq, Path.hasTraversal_iff] at hfolder ⊢
    rw [constraintFolder, Path.segments_below, List.mem_append]
    exact fun hm => hm.elim hfolder (by decide)
  unfold Registry.constraints
  rw [run_bind_ok (run_require hbase), run_bind_ok (run_listingOf hstays),
    run_bind_ok (run_mapM fun path _ => run_constraintAt name path)]
  exact ⟨_, rfl⟩

theorem run_noteAt {raw path : String} (hpath : base.resolveNote raw = .ok path) :
    ((inMemory .allowing clock root).noteAt name raw).run state vault =
      ((.ok (base, path), state), vault) := by
  unfold noteAt
  rw [run_bind_ok (run_require hbase), run_bind_ok (run_orFail hpath)]
  rfl

end

theorem run_enforce {constraints : List Constraint}
    (hconstraints : ((inMemory .allowing clock root).constraints base.name).run state vault =
      ((.ok constraints, state), vault)) (path text : String) :
    ((inMemory .allowing clock root).enforce base path text).run state vault =
      match Constraint.verdict constraints path text with
      | .ok checked => ((.ok ⟨path, checked⟩, state), vault)
      | .error issues => ((.error (.violation path issues), state), vault) := by
  have hcheck : ((inMemory .allowing clock root).checkNote base.name path text).run state vault =
      ((.ok ((Constraint.applicable? path constraints).map fun constraint =>
        (constraint, .ofNote constraint.rules path text)), state), vault) := by
    have happlicable : ((inMemory .allowing clock root).applicable? base.name path).run state vault =
        ((.ok (Constraint.applicable? path constraints), state), vault) := by
      unfold applicable?
      rw [run_bind_ok hconstraints]
      rfl
    unfold checkNote
    rw [run_bind_ok happlicable]
    rfl
  unfold enforce
  rw [run_bind_ok hcheck, Constraint.verdict]
  cases Constraint.applicable? path constraints with
  | none => rfl
  | some constraint =>
      simp only [Option.map_some]
      generalize Validation.ofNote constraint.rules path text = validation
      by_cases hpass : validation.issues.isEmpty = true
      · rw [if_pos (show validation.passed = true from hpass), if_pos hpass]
        rfl
      · rw [if_neg (show ¬validation.passed = true from hpass), if_neg hpass]
        rfl

-- What follows the gate is done only for a document that passes.
theorem run_enforce_bind {constraints : List Constraint}
    (hconstraints : ((inMemory .allowing clock root).constraints base.name).run state vault =
      ((.ok constraints, state), vault)) {path text : String} {after : Vault}
    {rest : NoteOutcome → Work (Session σ) NoteOutcome}
    (hrest : ∀ checked, (rest ⟨path, checked⟩).run state vault =
      ((.ok ⟨path, checked⟩, state), after)) :
    ((inMemory .allowing clock root).enforce base path text >>= rest).run state vault =
      match Constraint.verdict constraints path text with
      | .ok checked => ((.ok ⟨path, checked⟩, state), after)
      | .error issues => ((.error (.violation path issues), state), vault) := by
  have henforce := run_enforce hconstraints path text
  cases hverdict : Constraint.verdict constraints path text with
  | error issues =>
      rw [hverdict] at henforce
      exact run_bind_error henforce _
  | ok checked =>
      rw [hverdict] at henforce
      rw [run_bind_ok henforce, hrest]

section

variable {constraints : List Constraint} {path : String}
  (hbase : ((inMemory .allowing clock root).get base.name).run state vault =
    ((.ok (some base), state), vault))
  (hconstraints : ((inMemory .allowing clock root).constraints base.name).run state vault =
    ((.ok constraints, state), vault))
  (hstays : Path.hasTraversal base.subfolder = false)
include hbase hconstraints hstays

omit hbase hconstraints in
theorem isPresent_of_resolveNote (vault : Vault) {raw : String}
    (hpath : base.resolveNote raw = .ok path) :
    vault.perform (.isPresent path) = (.ok (vault.hasFile path || vault.hasFolder path), vault) := by
  have hclean := KnowledgeBase.clean_of_resolveNote hstays hpath
  obtain ⟨rest, hrest⟩ := KnowledgeBase.below_of_resolveNote hpath
  refine Vault.isPresent_of_clean hclean ?_
  rw [hrest]
  exact Path.below_ne_empty _ _

theorem run_createNote {raw : String} (content : String) (hpath : base.resolveNote raw = .ok path)
    (hfile : vault.hasFile path = false) (hfolder : vault.hasFolder path = false) :
    ((inMemory .allowing clock root).createNote base.name raw content).run state vault =
      match Constraint.verdict constraints path content with
      | .ok checked => ((.ok ⟨path, checked⟩, state), vault.withFile path content)
      | .error issues => ((.error (.violation path issues), state), vault) := by
  have hclean := KnowledgeBase.clean_of_resolveNote hstays hpath
  have hpresent := isPresent_of_resolveNote hstays vault hpath
  rw [hfile, hfolder] at hpresent
  refine (run_bind_ok (run_noteAt hbase hpath) _).trans (run_enforce_bind hconstraints ?_)
  intro checked
  refine (run_bind_ok (run_ask hpresent) _).trans ?_
  exact run_bind_ok (run_askNote (Vault.create_of_missing hclean hfile content)) _

theorem run_updateNote {raw : String} (content : String) (hpath : base.resolveNote raw = .ok path)
    (hfile : vault.hasFile path = true) :
    ((inMemory .allowing clock root).updateNote base.name raw content).run state vault =
      match Constraint.verdict constraints path content with
      | .ok checked => ((.ok ⟨path, checked⟩, state), vault.withFile path content)
      | .error issues => ((.error (.violation path issues), state), vault) := by
  have hclean := KnowledgeBase.clean_of_resolveNote hstays hpath
  have hpresent := isPresent_of_resolveNote hstays vault hpath
  rw [hfile, Bool.true_or] at hpresent
  refine (run_bind_ok (run_noteAt hbase hpath) _).trans ?_
  refine (run_bind_ok (run_ask hpresent) _).trans (run_enforce_bind hconstraints ?_)
  intro checked
  exact run_bind_ok (run_askNote (Vault.modify_of_file hclean hfile content)) _

theorem run_appendNote {raw addition old text : String} (hpath : base.resolveNote raw = .ok path)
    (hold : vault.files.get? path = some old) (htext : Continues old addition text) :
    ((inMemory .allowing clock root).appendNote base.name raw addition).run state vault =
      match Constraint.verdict constraints path text with
      | .ok checked => ((.ok ⟨path, checked⟩, state), vault.withFile path text)
      | .error issues => ((.error (.violation path issues), state), vault) := by
  obtain rfl := continues_iff.mp htext
  have hclean := KnowledgeBase.clean_of_resolveNote hstays hpath
  have hread := Vault.read_of_file hclean hold
  have hwrite := Vault.modify_of_file hclean (Vault.hasFile_of_get? hold) (appended old addition)
  refine (run_bind_ok (run_noteAt hbase hpath) _).trans ?_
  refine (run_bind_ok (run_askNote hread) _).trans (run_enforce_bind hconstraints ?_)
  intro checked
  exact run_bind_ok (run_askNote hwrite) _

-- A note is checked where it goes to, not where it is.
theorem run_moveNote {rawSource rawTarget source text : String}
    (hsource : base.resolveNote rawSource = .ok source)
    (htarget : base.resolveNote rawTarget = .ok path)
    (htext : vault.files.get? source = some text) (hfile : vault.hasFile path = false)
    (hfolder : vault.hasFolder path = false) :
    ((inMemory .allowing clock root).moveNote base.name rawSource rawTarget).run state vault =
      match Constraint.verdict constraints path text with
      | .ok checked =>
        ((.ok ⟨path, checked⟩, state), (vault.withoutFile source).withFile path text)
      | .error issues => ((.error (.violation path issues), state), vault) := by
  have hcleanSource := KnowledgeBase.clean_of_resolveNote hstays hsource
  have hcleanTarget := KnowledgeBase.clean_of_resolveNote hstays htarget
  have hread := Vault.read_of_file hcleanSource htext
  have hrename := Vault.rename_of_file hcleanSource hcleanTarget htext hfile
  have hpresent := isPresent_of_resolveNote hstays vault htarget
  rw [hfile, hfolder] at hpresent
  refine (run_bind_ok (run_noteAt hbase hsource) _).trans ?_
  refine (run_bind_ok (run_orFail htarget) _).trans ?_
  refine (run_bind_ok (run_askNote hread) _).trans ?_
  refine (run_bind_ok (run_ask hpresent) _).trans (run_enforce_bind hconstraints ?_)
  intro checked
  exact run_bind_ok (run_askNote hrename) _

end

-- The document that a mutation would store is what the gate checks, and if it passes
-- it is stored where it was checked.
theorem carryOut_gated
    (hbase : ((inMemory .allowing clock root).get base.name).run state vault =
      ((.ok (some base), state), vault))
    (hstays : Path.hasTraversal base.subfolder = false) {operation : Operation NoteOutcome}
    {path text : String} {source? : Option String}
    (hproposes : operation.Proposes base vault path text source?) :
    ∃ constraints after,
      ((inMemory .allowing clock root).constraints base.name).run state vault =
        ((.ok constraints, state), vault) ∧
      (∀ other, after.files.get? other = if other = path then some text
        else if some other = source? then none else vault.files.get? other) ∧
      ((inMemory .allowing clock root).carryOut operation).run state vault =
        match Constraint.verdict constraints path text with
        | .ok checked => ((.ok ⟨path, checked⟩, state), after)
        | .error issues => ((.error (.violation path issues), state), vault) := by
  obtain ⟨constraints, hconstraints⟩ := exists_constraints hbase
  refine ⟨constraints, vault.withMoved path text source?, hconstraints,
    fun other => Vault.get?_withMoved path text other source?, ?_⟩
  cases hproposes with
  | create hpath hfile hfolder =>
      exact run_createNote hbase hconstraints hstays text hpath hfile hfolder
  | update hpath hfile => exact run_updateNote hbase hconstraints hstays text hpath hfile
  | append hpath hold htext => exact run_appendNote hbase hconstraints hstays hpath hold htext
  | move hsource htarget htext hfile hfolder =>
      exact run_moveNote hbase hconstraints hstays hsource htarget htext hfile hfolder

-- A note that is moved to a folder where notes must be longer, one that goes on behind a last
-- line without an end, and one that goes on behind a line end.
theorem carryOut_gated_length :
    let base : KnowledgeBase := .bare "work" "notes/work"
    let long : Constraint := ⟨"work", "notes/work/done", none, none, some ⟨some 40, none, none⟩⟩
    let registry : Registry (Session Unit) := inMemory .allowing (fun _ => (base.createTime, ())) ".kb"
    let vault := (((Vault.empty.withFile (recordPlace ".kb" "work") base.record).withFile
      ".kb/work/folder_constraints/notes-work-done.md" long.document).withFile
        "notes/work/plan.md" "Begin.").withFile "notes/work/done/log.md" "One.\n"
    let gated := fun (operation : Operation NoteOutcome) path text source? =>
      ∃ constraints after,
        (registry.constraints "work").run () vault = ((.ok constraints, ()), vault) ∧
        (∀ other, after.files.get? other = if other = path then some text
          else if some other = source? then none else vault.files.get? other) ∧
        (registry.carryOut operation).run () vault =
          match Constraint.verdict constraints path text with
          | .ok checked => ((.ok ⟨path, checked⟩, ()), after)
          | .error issues => ((.error (.violation path issues), ()), vault)
    gated (.moveNote "work" "plan" "done/plan") "notes/work/done/plan.md" "Begin."
        (some "notes/work/plan.md") ∧
      gated (.appendNote "work" "plan" "End.") "notes/work/plan.md" "Begin.\nEnd." none ∧
      gated (.appendNote "work" "done/log" "Two.") "notes/work/done/log.md" "One.\nTwo." none := by
  intro base long registry vault gated
  have hrecordable : base.IsRecordable :=
    KnowledgeBase.isRecordable_bare ⟨by decide, by decide⟩ (by decide) (by decide)
  have hkeeps : vault.Keeps ".kb" base := by
    refine ⟨by decide, base.record, ?_, KnowledgeBase.ofRecord_bare hrecordable⟩
    rw [Vault.get?_withFile, if_neg (by decide), Vault.get?_withFile, if_neg (by decide),
      Vault.get?_withFile, if_neg (by decide), Vault.get?_withFile]
    exact if_pos rfl
  have hbase := run_get (fun _ => (base.createTime, ())) () (by decide) (by decide)
    ⟨by decide, by decide⟩ hkeeps
  have hplan : vault.files.get? "notes/work/plan.md" = some "Begin." := by
    rw [Vault.get?_withFile, if_neg (by decide), Vault.get?_withFile]
    exact if_pos rfl
  have hlog : vault.files.get? "notes/work/done/log.md" = some "One.\n" := by
    rw [Vault.get?_withFile]
    exact if_pos rfl
  have hopen : ∀ lines : String, "Begin." ≠ lines ++ "\n" := by
    intro lines h
    have hlast := congrArg (fun text => text.toList.getLast?) h
    simp at hlast
  refine ⟨carryOut_gated hbase (by decide) ?_, carryOut_gated hbase (by decide) ?_,
    carryOut_gated hbase (by decide) ?_⟩
  · exact .move (by decide) (by decide) hplan (by decide) (by decide)
  · exact .append (by decide) hplan (.opened (by decide) hopen)
  · exact .append (by decide) hlog (.closed (.inr ⟨"One.", rfl⟩))

end NoteVault
