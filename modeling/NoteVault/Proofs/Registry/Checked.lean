import NoteVault.Proofs.Constraint.Applicable
import NoteVault.Proofs.Registry.Documents
import NoteVault.Proofs.Registry.Learned

namespace NoteVault

open Registry Session

-- The notes keep a constraint from a look at all of them: the folder of the constraints
-- was said to be missing, or a document with this one was not to be read.
def HidesConstraint (given : RefusedCall → Prop) (vault : Vault) (root name : String)
    (constraint : Constraint) : Prop :=
  (∃ path, given ((Call.list (constraintsPlace root name)).refused (.notFound path))) ∨
    ∃ place ∈ vault.documentsOf root name, vault.constraintAt? name place = some constraint ∧
      ∃ fault, given ((Call.read place).refused fault)

-- What is found where some places are hidden lacks nothing but what is there.
theorem sublist_of_forall₂ {α β : Type} [DecidableEq β] {real : α → Option β} {hidden : α → Prop}
    {places : List α} {found : List (Option β)}
    (h : List.Forall₂ (fun place value => value = real place ∨ value = none ∧ hidden place) places
      found) :
    (found.filterMap id).Sublist (places.filterMap real) ∧ ∀ target,
      (∀ place ∈ places, real place = some target → ¬hidden place) →
        (found.filterMap id).count target = (places.filterMap real).count target := by
  induction h with
  | nil => exact ⟨.slnil, fun _ _ => rfl⟩
  | @cons place value places found hfirst hrest ih =>
      obtain ⟨hsub, hcount⟩ := ih
      have hshown : ∀ target, (∀ other ∈ place :: places, real other = some target → ¬hidden other) →
          ∀ other ∈ places, real other = some target → ¬hidden other :=
        fun _ h other ho => h other (List.mem_cons_of_mem _ ho)
      cases hreal : real place with
      | none =>
          obtain rfl : value = none := by
            rcases hfirst with h | h
            · rw [h, hreal]
            · exact h.1
          rw [List.filterMap_cons_none (id_eq _), List.filterMap_cons_none hreal]
          exact ⟨hsub, fun target h => hcount target (hshown target h)⟩
      | some item =>
          rw [List.filterMap_cons_some hreal]
          rcases hfirst with rfl | ⟨rfl, hhidden⟩
          · rw [List.filterMap_cons_some ((id_eq _).trans hreal)]
            refine ⟨hsub.cons_cons item, fun target h => ?_⟩
            rw [List.count_cons, List.count_cons, hcount target (hshown target h)]
          · rw [List.filterMap_cons_none (id_eq _)]
            refine ⟨hsub.cons item, fun target h => ?_⟩
            have hother : item ≠ target := by
              rintro rfl
              exact h place List.mem_cons_self hreal hhidden
            rw [List.count_cons_of_ne hother, hcount target (hshown target h)]

section

variable {σ : Type} {policy : Policy σ} {clock : σ → Time.Instant × σ} {root name : String}
  {vault : Vault} {given : RefusedCall → Prop}

theorem learns_constraintAt (hp : policy.OnlyRefuses) (path : String) :
    Learns given ((noting policy clock root).constraintAt? name path) vault fun found =>
      found = vault.constraintAt? name path ∨
        found = none ∧ ∃ fault, given ((Call.read path).refused fault) := by
  refine (Learns.perform hp (by trivial)).bind fun answer => ?_
  unfold Vault.constraintAt?
  split
  · refine .pure ?_
    rintro (hheard | ⟨_, hheard, -⟩)
    · exact .inl (by rw [← hheard])
    · cases hheard
  · refine .pure ?_
    rintro (hheard | ⟨fault, -, hgiven⟩)
    · exact .inl (by rw [← hheard])
    · exact .inr ⟨rfl, fault, hgiven⟩

section

variable (hp : policy.OnlyRefuses) (hv : vault.IsTree) (hroot : Path.Clean root) (hne : root ≠ "")
include hp hv hroot hne

-- A look at the constraints misses those only that the notes hide.
theorem learns_constraints :
    Learns given ((noting policy clock root).constraints name) vault fun found =>
      found.Sublist (vault.constraintsOf root name) ∧ ∀ constraint,
        ¬HidesConstraint given vault root name constraint →
          found.count constraint = (vault.constraintsOf root name).count constraint := by
  unfold Registry.constraints
  refine .after_reading hp (works_require fun _ => serves_reading) fun base ⟨hname, _⟩ => ?_
  rw [constraintFolder_inMemory hroot.normal]
  refine (learns_listingOf hp hv (clean_constraintsPlace hroot hne hname)
    (constraintsPlace_ne_empty root name)).bind fun listing => ?_
  refine (Learns.mapM fun place _ => learns_constraintAt hp place).bind fun found => ?_
  refine .pure fun hfound hlisting => ?_
  rcases hlisting with rfl | ⟨rfl, hmissing⟩
  · obtain ⟨hsub, hcount⟩ := sublist_of_forall₂ hfound
    refine ⟨hsub, fun constraint hshown => hcount constraint fun place hplace hreal hhidden => ?_⟩
    exact hshown (.inr ⟨place, hplace, hreal, hhidden⟩)
  · cases hfound
    exact ⟨List.nil_sublist _, fun constraint hshown => absurd (.inl hmissing) hshown⟩

theorem learns_applicable (path : String) :
    Learns given ((noting policy clock root).applicable? name path) vault fun found =>
      ∀ constraint, Constraint.applicable? path (vault.constraintsOf root name) = some constraint →
        ¬HidesConstraint given vault root name constraint → found = some constraint := by
  refine (learns_constraints hp hv hroot hne).bind fun found => .pure ?_
  rintro ⟨hsub, hcount⟩ constraint happlicable hshown
  exact Constraint.applicable?_of_sublist hsub (hcount constraint hshown) happlicable

-- What passes the gate passes the check by the nearest of all constraints, unless the
-- notes hide that one.
theorem learns_enforce (given : RefusedCall → Prop) (base : KnowledgeBase) (path text : String) :
    Learns given ((noting policy clock root).enforce base path text) vault fun outcome =>
      outcome.path = path ∧ ∀ constraint,
        Constraint.applicable? path (vault.constraintsOf root base.name) = some constraint →
          ¬HidesConstraint given vault root base.name constraint →
            (Validation.ofNote constraint.rules path text).passed = true := by
  have hcheck : Learns given ((noting policy clock root).checkNote base.name path text) vault
      fun found => ∀ constraint,
        Constraint.applicable? path (vault.constraintsOf root base.name) = some constraint →
          ¬HidesConstraint given vault root base.name constraint →
            found = some (constraint, .ofNote constraint.rules path text) := by
    refine (learns_applicable hp hv hroot hne path).bind fun found => .pure ?_
    intro hfound constraint happlicable hshown
    rw [hfound constraint happlicable hshown, Option.map_some]
  refine hcheck.bind fun found => ?_
  split
  · refine .pure fun hfound => ⟨rfl, fun constraint happlicable hshown => ?_⟩
    cases hfound constraint happlicable hshown
  · rename_i checked validation
    split
    · rename_i hpasses
      refine .pure fun hfound => ⟨rfl, fun constraint happlicable hshown => ?_⟩
      obtain ⟨rfl, rfl⟩ := Prod.mk.inj (Option.some.inj (hfound constraint happlicable hshown))
      exact hpasses
    · exact .throw _

end

end

-- The document of an outcome is in its place, and passes the check by the nearest of the
-- constraints that were on record before, unless the notes hide that one.
def NoteOutcome.IsChecked (outcome : NoteOutcome) (before : Vault) (root name : String)
    (given : RefusedCall → Prop) (after : Vault) : Prop :=
  ∃ text, after.files.get? outcome.path = some text ∧ ∀ constraint,
    Constraint.applicable? outcome.path (before.constraintsOf root name) = some constraint →
      ¬HidesConstraint given before root name constraint →
        (Validation.ofNote constraint.rules outcome.path text).passed = true

section

variable {σ : Type} {policy : Policy σ} {clock : σ → Time.Instant × σ} {root name : String}
  {vault : Vault} {notes : σ × List RefusedCall}

theorem get?_of_write {base : KnowledgeBase} {raw path text : String} {mode : WriteMode}
    (hpath : base.resolveNote raw = .ok path)
    (hok : (vault.perform (.write path text mode)).1 = .ok ()) :
    (vault.perform (.write path text mode)).2.files.get? path = some text := by
  rw [(Vault.write_ok hok).1, KnowledgeBase.normalize_of_resolveNote hpath, Vault.get?_withFile,
    if_pos rfl]

section

variable (hp : policy.OnlyRefuses) (hv : vault.IsTree) (hroot : Path.Clean root) (hne : root ≠ "")
  (given : RefusedCall → Prop)
include hp hv hroot hne

omit hv hroot hne in
-- What goes through the gate is stored as it was checked.
theorem ends_store_noting {base : KnowledgeBase} {path text : String} {outcome : NoteOutcome}
    {call : Call Unit}
    (hchecked : (∀ refusal ∈ notes.2, given refusal) → outcome.path = path ∧ ∀ constraint,
      Constraint.applicable? path (vault.constraintsOf root base.name) = some constraint →
        ¬HidesConstraint given vault root base.name constraint →
          (Validation.ofNote constraint.rules path text).passed = true)
    (hstores : (vault.perform call).1 = .ok () →
      (vault.perform call).2.files.get? path = some text) :
    Ends ((noting policy clock root).askNote call >>= fun _ => pure outcome) notes vault
      (fun outcome later after => (∀ refusal ∈ later.2, given refusal) →
        outcome.IsChecked vault root base.name given after)
      fun _ _ _ => True := by
  rw [ends_bind]
  refine ends_askNote_noting hp (fun _ next hok => ?_) fun _ _ => trivial
  refine (ends_pure outcome).mpr fun hgiven => ?_
  obtain ⟨rfl, hpasses⟩ := hchecked hgiven
  exact ⟨text, hstores hok, hpasses⟩

theorem ends_createNote_noting (raw content : String) :
    Ends ((noting policy clock root).createNote name raw content) notes vault
      (fun outcome later after => (∀ refusal ∈ later.2, given refusal) →
        outcome.IsChecked vault root name given after)
      fun _ _ _ => True := by
  refine .after_reading hp.noting (works_noteAt fun _ => serves_reading) ?_ fun _ _ => trivial
  rintro ⟨base, path⟩ _ ⟨-, hbase, hpath⟩
  obtain rfl := hbase.name_eq
  refine .after_learning (learns_enforce hp hv hroot hne given base path content)
    (fun outcome first _ hchecked => ?_) fun _ _ => trivial
  refine .after_learning (.reading given hp (.ask (by trivial) fun _ h => h))
    (fun present second hgrows _ => ?_) fun _ _ => trivial
  split
  · exact .of_throw_bind trivial
  · exact ends_store_noting hp given (fun hgiven => hchecked fun refusal hr =>
      hgiven refusal (hgrows hr)) (get?_of_write hpath)

theorem ends_updateNote_noting (raw content : String) :
    Ends ((noting policy clock root).updateNote name raw content) notes vault
      (fun outcome later after => (∀ refusal ∈ later.2, given refusal) →
        outcome.IsChecked vault root name given after)
      fun _ _ _ => True := by
  refine .after_reading hp.noting (works_noteAt fun _ => serves_reading) ?_ fun _ _ => trivial
  rintro ⟨base, path⟩ _ ⟨-, hbase, hpath⟩
  obtain rfl := hbase.name_eq
  refine .after_reading hp.noting (.ask (by trivial) fun _ h => h) (fun present _ _ => ?_)
    fun _ _ => trivial
  split
  · exact .of_throw_bind trivial
  · refine .after_learning (learns_enforce hp hv hroot hne given base path content)
      (fun outcome first _ hchecked => ?_) fun _ _ => trivial
    exact ends_store_noting hp given hchecked (get?_of_write hpath)

theorem ends_appendNote_noting (raw addition : String) :
    Ends ((noting policy clock root).appendNote name raw addition) notes vault
      (fun outcome later after => (∀ refusal ∈ later.2, given refusal) →
        outcome.IsChecked vault root name given after)
      fun _ _ _ => True := by
  refine .after_reading hp.noting (works_noteAt fun _ => serves_reading) ?_ fun _ _ => trivial
  rintro ⟨base, path⟩ _ ⟨-, hbase, hpath⟩
  obtain rfl := hbase.name_eq
  refine .after_reading hp.noting (works_askNote (by trivial)) (fun text _ _ => ?_) fun _ _ => trivial
  refine .after_learning (learns_enforce hp hv hroot hne given base path (appended text addition))
    (fun outcome first _ hchecked => ?_) fun _ _ => trivial
  exact ends_store_noting hp given hchecked (get?_of_write hpath)

-- The document that is moved is the one that was checked.
theorem ends_moveNote_noting (raw rawTarget : String) :
    Ends ((noting policy clock root).moveNote name raw rawTarget) notes vault
      (fun outcome later after => (∀ refusal ∈ later.2, given refusal) →
        outcome.IsChecked vault root name given after)
      fun _ _ _ => True := by
  refine .after_reading hp.noting (works_noteAt fun _ => serves_reading)
    (fun ⟨base, source⟩ _ ⟨_, hbase, hsource⟩ => ?_) fun _ _ => trivial
  obtain rfl := hbase.name_eq
  refine .after_orFail (fun target htarget => ?_) fun _ _ => trivial
  rw [ends_bind]
  refine ends_askNote hp.noting (fun text _ hread => ?_) fun _ _ => trivial
  obtain ⟨-, hget⟩ := Vault.read_ok hread
  rw [Vault.perform_question _ (by trivial)]
  refine .after_reading hp.noting (.ask (by trivial) fun _ h => h) (fun present _ _ => ?_)
    fun _ _ => trivial
  split
  · exact .of_throw_bind trivial
  · refine .after_learning (learns_enforce hp hv hroot hne given base target text)
      (fun outcome first _ hchecked => ?_) fun _ _ => trivial
    refine ends_store_noting hp given hchecked fun hok => ?_
    obtain ⟨moved, hmoved, -, hafter⟩ := Vault.rename_ok hok
    obtain rfl := Option.some.inj (hmoved.symm.trans hget)
    rw [hafter, KnowledgeBase.normalize_of_resolveNote htarget, Vault.get?_withFile, if_pos rfl]

end

-- Whatever calls are refused, what a change to a note stores has passed the check by the
-- nearest constraint, unless a refusal hid that constraint.
theorem stored_checked (hp : policy.OnlyRefuses) (hv : vault.Reachable) (hroot : Path.Clean root)
    (hne : root ≠ "") (name raw : String) (state : σ) :
    let registry := noting policy clock root
    let checked := fun (outcome : NoteOutcome) (later : σ × List RefusedCall) (after : Vault) =>
      outcome.IsChecked vault root name (· ∈ later.2) after
    (∀ content, Ends (registry.createNote name raw content) (state, []) vault checked
        fun _ _ _ => True) ∧
      (∀ content, Ends (registry.updateNote name raw content) (state, []) vault checked
        fun _ _ _ => True) ∧
      (∀ addition, Ends (registry.appendNote name raw addition) (state, []) vault checked
        fun _ _ _ => True) ∧
      ∀ rawTarget, Ends (registry.moveNote name raw rawTarget) (state, []) vault checked
        fun _ _ _ => True := by
  intro registry checked
  let checkedFor := fun (given : RefusedCall → Prop) (outcome : NoteOutcome) (after : Vault) =>
    outcome.IsChecked vault root name given after
  refine ⟨fun content => .of_given checkedFor fun given => ?_,
    fun content => .of_given checkedFor fun given => ?_,
    fun addition => .of_given checkedFor fun given => ?_,
    fun rawTarget => .of_given checkedFor fun given => ?_⟩
  · exact ends_createNote_noting hp hv.isTree hroot hne given raw content
  · exact ends_updateNote_noting hp hv.isTree hroot hne given raw content
  · exact ends_appendNote_noting hp hv.isTree hroot hne given raw addition
  · exact ends_moveNote_noting hp hv.isTree hroot hne given raw rawTarget

end

-- Two calls are refused, and the note that is made has to satisfy a constraint.
theorem stored_checked_refusals :
    let base : KnowledgeBase := .bare "work" "notes/work"
    let long : Constraint := ⟨"work", "notes/work", none, none, some ⟨some 40, none, none⟩⟩
    let vault := (Vault.empty.withFile (recordPlace ".kb" "work") base.record).withFile
      ".kb/work/folder_constraints/notes_work.md" long.document
    let registry := noting (.refusing [2, 5] .inputOutput) (fun turn => (base.createTime, turn)) ".kb"
    let checked := fun (outcome : NoteOutcome) (later : Nat × List RefusedCall) (after : Vault) =>
      outcome.IsChecked vault ".kb" "work" (· ∈ later.2) after
    (∀ content, Ends (registry.createNote "work" "plan" content) (0, []) vault checked
        fun _ _ _ => True) ∧
      (∀ content, Ends (registry.updateNote "work" "plan" content) (0, []) vault checked
        fun _ _ _ => True) ∧
      (∀ addition, Ends (registry.appendNote "work" "plan" addition) (0, []) vault checked
        fun _ _ _ => True) ∧
      ∀ rawTarget, Ends (registry.moveNote "work" "plan" rawTarget) (0, []) vault checked
        fun _ _ _ => True := by
  intro base long vault registry checked
  have hv : vault.Reachable :=
    (Vault.Reachable.empty.withFile ⟨by decide, by decide⟩ base.record).withFile
      ⟨by decide, by decide⟩ long.document
  exact stored_checked (Policy.onlyRefuses_refusing [2, 5] .inputOutput) hv ⟨by decide, by decide⟩
    (by decide) "work" "plan" 0

-- The document of the constraint is not to be read, or its folder is said to be missing,
-- and a note is stored that is too short for it.
theorem createNote_unchecked :
    let base : KnowledgeBase := .bare "work" "notes/work"
    let long : Constraint := ⟨"work", "notes/work", none, none, some ⟨some 40, none, none⟩⟩
    let vault := (Vault.empty.withFile (recordPlace ".kb" "work") base.record).withFile
      ".kb/work/folder_constraints/notes_work.md" long.document
    Constraint.applicable? "notes/work/plan.md" (vault.constraintsOf ".kb" "work") = some long ∧
      (Validation.ofNote long.rules "notes/work/plan.md" "Begin.").passed = false ∧
      ∀ refused ∈ [(3, StorageFault.inputOutput), (2, .notFound ".kb/work/folder_constraints")],
        let registry := inMemory (.refusing [refused.1] refused.2)
          (fun turn => (base.createTime, turn)) ".kb"
        let created := (registry.createNote "work" "plan" "Begin.").run
        result created 0 vault = .ok ⟨"notes/work/plan.md", none⟩ ∧
          (vaultAfter created 0 vault).files.get? "notes/work/plan.md" = some "Begin." := by
  decide +kernel

end NoteVault
