import NoteVault.Proofs.Registry.Exclusive
import NoteVault.Proofs.Registry.Learned
import NoteVault.Proofs.Registry.Spared

namespace NoteVault

open Registry Session

-- A knowledge base that a wish may become, but for what the others have.
structure NewKnowledgeBase.Becomes (wish : NewKnowledgeBase) (root : String) (base : KnowledgeBase) :
    Prop where
  name : base.name = wish.name
  description : base.description = wish.description
  subfolder : base.subfolder = Path.normalize wish.subfolder
  organizationRules : base.organizationRules = Text.trimmed wish.organizationRules
  checked : KnowledgeBase.checkName base.name = .ok ()
  clean : Path.Clean base.subfolder
  reserved : Path.overlap base.subfolder root = false

-- The folder collides with no subfolder of another knowledge base, unless the notes
-- hide the record of that one.
def Vault.SeemsApart (vault : Vault) (root : String) (given : RefusedCall → Prop) (name folder : String) :
    Prop :=
  ∀ other, vault.Keeps root other → other.name ≠ name → ¬HidesRecord given root other.name →
    Path.overlap folder other.subfolder = false

-- The notes tell of a folder that was not to be made.
def LacksFolder (refusals : List RefusedCall) : Prop :=
  ∃ refusal ∈ refusals, refusal.method = .createFolder

theorem not_lacksFolder_nil : ¬LacksFolder [] :=
  fun ⟨_, hrefusal, _⟩ => nomatch hrefusal

theorem lacksFolder_cons {refusal : RefusedCall} {refusals : List RefusedCall}
    (h : refusal.method ≠ .createFolder) :
    LacksFolder (refusal :: refusals) ↔ LacksFolder refusals := by
  simp only [LacksFolder, List.mem_cons, exists_eq_or_imp, h, false_or]

variable {σ α : Type} {policy : Policy σ} {clock : σ → Time.Instant × σ} {root : String}
  {vault : Vault} {notes : σ × List RefusedCall} {given : RefusedCall → Prop}

theorem Registry.Works.ends_confined_noting {work : Work (Session (σ × List RefusedCall)) α}
    {places : String → Prop} {post : α → Prop} (hp : policy.OnlyRefuses)
    (h : (noting policy clock root).Works (.confined vault places) work post) :
    Ends work notes vault
      (fun value later after => post value ∧ vault.Confined places after ∧ notes.2 ⊆ later.2)
      fun _ later after => vault.Confined places after ∧ notes.2 ⊆ later.2 := by
  refine h.ends (fun later after => vault.Confined places after ∧ notes.2 ⊆ later.2) ?_
    ⟨.refl vault, List.Subset.refl _⟩
  rintro β event hasks later now ⟨hnow, hgrows⟩
  cases event with
  | call call =>
      obtain ⟨next, hrun | ⟨fault, hrun⟩⟩ := respond_noting clock root hp call later now
      · simp only [result, stateAfter, vaultAfter, hrun]
        exact ⟨.inl ⟨now, hnow, rfl⟩, hnow.trans ((now.confined_perform call).mono hasks), hgrows⟩
      · simp only [result, stateAfter, vaultAfter, hrun]
        exact ⟨.inr ⟨fault, rfl⟩, hnow, fun refusal hr => List.mem_cons_of_mem _ (hgrows hr)⟩
  | now => exact ⟨trivial, hnow, hgrows⟩
  | depth => exact ⟨trivial, hnow, hgrows⟩

-- Who only reads is refused no folder.
theorem Registry.Works.ends_reading_folders {work : Work (Session (σ × List RefusedCall)) α}
    {post : α → Prop} (hp : policy.OnlyRefuses)
    (h : (noting policy clock root).Works (.reading vault) work post)
    (hnotes : ¬LacksFolder notes.2) :
    Ends work notes vault
      (fun value later after => post value ∧ after = vault ∧ ¬LacksFolder later.2)
      fun _ later after => after = vault ∧ ¬LacksFolder later.2 := by
  refine h.ends (fun later after => after = vault ∧ ¬LacksFolder later.2) ?_ ⟨rfl, hnotes⟩
  rintro β event hasks later after ⟨rfl, hlater⟩
  cases event with
  | call call =>
      have hmethod : call.method ≠ .createFolder := by
        intro hfolder
        cases call <;> first | exact hasks | cases hfolder
      obtain ⟨next, hrun | ⟨fault, hrun⟩⟩ := respond_noting clock root hp call later after
      · simp only [result, stateAfter, vaultAfter, hrun]
        exact ⟨.inl rfl, Vault.perform_question call hasks, hlater⟩
      · simp only [result, stateAfter, vaultAfter, hrun]
        exact ⟨.inr ⟨fault, rfl⟩, trivial,
          fun hlacks => hlater ((lacksFolder_cons hmethod).mp hlacks)⟩
  | now => exact hasks.elim
  | depth => exact ⟨trivial, rfl, hlater⟩

-- The record is no folder.
theorem ends_createRecord_noting (hp : policy.OnlyRefuses) (base : KnowledgeBase)
    (hnotes : ¬LacksFolder notes.2) :
    Ends ((noting policy clock root).createRecord base) notes vault
      (fun _ later _ => later.2 = notes.2) fun _ later _ => ¬LacksFolder later.2 := by
  have hwrite : ∀ fault, ¬LacksFolder
      ((Call.write ((noting policy clock root).recordPath base.name) base.record .create).refused
        fault :: notes.2) := fun fault hlacks =>
    hnotes ((lacksFolder_cons (show Method.write ≠ .createFolder by decide)).mp hlacks)
  unfold createRecord
  rw [ends_bind]
  refine ends_perform_noting hp (fun _ _ _ => (ends_pure _).mpr rfl) (fun fault _ _ => ?_)
    fun fault _ => ?_
  · cases fault <;> exact (ends_throw _).mpr hnotes
  · cases fault <;> exact (ends_throw _).mpr (hwrite _)

-- A folder at a clean place is made, or the call is noted.
theorem ends_createFolder_noting (hp : policy.OnlyRefuses) {path : String} (hclean : Path.Clean path) :
    Ends ((noting policy clock root).storage.ask (.createFolder path)) notes vault
      (fun _ later _ => later.2 = notes.2) fun _ later _ => LacksFolder later.2 := by
  refine ends_ask_noting hp (fun _ _ _ => rfl) (fun fault _ hfault => ?_) fun fault _ =>
    ⟨_, List.mem_cons_self, rfl⟩
  rw [Vault.perform_of_clean (by simpa [Call.paths] using hclean), Vault.answer] at hfault
  split at hfault <;> cases hfault

section

variable (hroot : Path.Clean root) (hne : root ≠ "")
include hroot hne

-- What follows the record fails for want of a folder only.
theorem ends_furnish_noting (hp : policy.OnlyRefuses) {base : KnowledgeBase}
    (hname : KnowledgeBase.checkName base.name = .ok ()) (hclean : Path.Clean base.subfolder) :
    Ends ((noting policy clock root).furnish base) notes vault
      (fun other later after => other = base ∧ vault.Confined (IsFurniture root base) after ∧
        notes.2 ⊆ later.2)
      fun _ later after => vault.Confined (IsFurniture root base) after ∧ LacksFolder later.2 := by
  have hlacks : Ends ((noting policy clock root).furnish base) notes vault (fun _ _ _ => True)
      fun _ later _ => LacksFolder later.2 := by
    unfold furnish
    rw [ends_bind]
    refine (ends_createFolder_noting hp (clean_constraintFolder hroot hne hname)).mono ?_
      fun _ _ _ h => h
    intro _ first middle _
    rw [ends_bind]
    refine (ends_createFolder_noting hp hclean).mono ?_ fun _ _ _ h => h
    intro _ second last _
    rw [ends_bind, ends_lift]
    exact (ends_pure base).mpr trivial
  refine ((works_furnish hroot hne base).ends_confined_noting hp |>.and hlacks).mono ?_ ?_
  · exact fun _ _ _ h => h.1
  · exact fun _ _ _ h => ⟨h.1.1, h.2⟩

-- A new knowledge base is apart from all that is known of. A failure leaves no trace, but for
-- the record when a folder is not to be made that should follow it.
theorem ends_add_noting (given : RefusedCall → Prop) (hp : policy.OnlyRefuses) (hv : vault.IsTree)
    (wish : NewKnowledgeBase) (hnotes : ¬LacksFolder notes.2) :
    Ends ((noting policy clock root).add wish) notes vault
      (fun base later after => wish.Becomes root base ∧
        vault.Records root base (IsFurniture root base) after ∧
        ((∀ refusal ∈ later.2, given refusal) →
          vault.SeemsApart root given base.name base.subfolder))
      fun _ later after => after = vault ∧ ¬LacksFolder later.2 ∨
        LacksFolder later.2 ∧ ∃ base, wish.Becomes root base ∧
          vault.Records root base (IsFurniture root base) after := by
  refine .after_orFail (fun _ hname => ?_) fun _ _ => .inl ⟨rfl, hnotes⟩
  refine .after_orFail (fun folder hfolder => ?_) fun _ _ => .inl ⟨rfl, hnotes⟩
  obtain ⟨hfolder, hclean, -⟩ := Path.folder_eq_ok hfolder
  have hpresent : (noting policy clock root).Works (.reading vault)
      ((noting policy clock root).storage.ask (.isPresent ((noting policy clock root).recordPath
        wish.name))) _ := .ask (by trivial) fun _ h => h
  rw [ends_bind]
  refine (hpresent.ends_reading_folders hp hnotes).mono ?_ fun _ _ _ h => .inl h
  rintro present first vault ⟨-, rfl, hfirst⟩
  split
  · exact .of_throw_bind (.inl ⟨rfl, hfirst⟩)
  rw [ends_bind]
  refine ((learns_scan given hp hv hroot hne first).and
    ((works_scan scans_reading).ends_reading_folders hp hfirst)).mono ?_ fun _ _ _ h => .inl h.2
  rintro bases later vault ⟨⟨rfl, -, hbases⟩, -, -, hlater⟩
  refine .after_orFail (fun _ hexclusive => ?_) fun _ _ => .inl ⟨rfl, hlater⟩
  obtain ⟨hreserved, hapart⟩ := checkExclusive_eq_ok hroot.normal hexclusive
  rw [ends_bind, ends_lift]
  let base : KnowledgeBase := ⟨wish.name, (clock later.1).1, wish.description, folder,
    Text.trimmed wish.organizationRules⟩
  have hbecomes : wish.Becomes root base := ⟨rfl, rfl, hfolder, rfl, hname, hclean, hreserved⟩
  show Ends ((noting policy clock root).createRecord base >>= fun _ =>
    (noting policy clock root).furnish base) (_, later.2) vault _ _
  have hcreated : Ends ((noting policy clock root).createRecord base) ((clock later.1).2, later.2)
      vault _ _ := (ends_createRecord hroot hne hp.noting base hname).and
    (ends_createRecord_noting hp base hlater)
  rw [ends_bind]
  refine hcreated.mono ?_ fun _ _ _ h => .inl h
  rintro _ next after ⟨⟨rfl, -⟩, hsame⟩
  refine (ends_furnish_noting hroot hne hp hname hclean).mono ?_ ?_
  · rintro other last _ ⟨rfl, hconfined, hgrows⟩
    refine ⟨hbecomes, hconfined, fun hgiven other ho hother hshown => hapart other ?_ hother⟩
    exact hbases (fun refusal hr => hgiven refusal (hgrows (hsame ▸ hr))) other ho hshown
  · rintro _ last _ ⟨hconfined, hlacks⟩
    exact .inr ⟨hlacks, base, hbecomes, hconfined⟩

-- An addition that fails leaves the vault as it was, unless a folder was not to be made. Then
-- the record, which was written before, stays. In any case the other knowledge bases are found
-- as before.
theorem add_undone (hp : policy.OnlyRefuses) (hv : vault.Reachable) (wish : NewKnowledgeBase)
    (state : σ) :
    Ends ((noting policy clock root).add wish) (state, []) vault (fun _ _ _ => True)
      fun _ (later : σ × List RefusedCall) after =>
        ((∀ refusal ∈ later.2, refusal.method ≠ .createFolder) → after = vault) ∧
          ((∃ refusal ∈ later.2, refusal.method = .createFolder) → ∃ base, wish.Becomes root base ∧
            after.files.get? (recordPlace root wish.name) = some base.record) ∧
          ∀ other, other.name ≠ wish.name → (after.Keeps root other ↔ vault.Keeps root other) := by
  refine (ends_add_noting hroot hne (fun _ => True) hp hv.isTree wish not_lacksFolder_nil).mono
    (fun _ _ _ _ => trivial) ?_
  rintro _ later after (⟨rfl, hfolders⟩ | ⟨hlacks, base, hbase, hrecords⟩)
  · exact ⟨fun _ => rfl, fun hlacks => absurd hlacks hfolders, fun _ _ => Iff.rfl⟩
  · have hname := (KnowledgeBase.isName_of_checkName hbase.checked).1
    have hfurniture : ∀ path, IsFurniture root base path → ¬IsRecordPlace root path := fun path =>
      not_isRecordPlace_furniture hname hbase.clean hbase.reserved
    refine ⟨fun hfolders => ?_, fun _ => ⟨base, hbase, ?_⟩, fun other hother => ?_⟩
    · obtain ⟨refusal, hrefusal, hmethod⟩ := hlacks
      exact absurd hmethod (hfolders refusal hrefusal)
    · rw [← hbase.name, hrecords.file _ fun hplace => hfurniture _ hplace ⟨base.name, hname, rfl⟩,
        Vault.get?_withFile, if_pos rfl]
    · exact hrecords.keeps_iff hfurniture hname (hbase.name ▸ hother)

end

-- The write of the record is refused, or the folder for the notes.
theorem add_undone_record :
    let wish : NewKnowledgeBase := ⟨"work", "", "notes/work", ""⟩
    ∀ turn ∈ [2, 4],
      let registry := noting (.refusing [turn] .inputOutput)
        (fun turn => (⟨⟨2024, 5, 17⟩, 8, 30, 0, 0⟩, turn)) ".kb"
      Ends (registry.add wish) (0, []) Vault.empty (fun _ _ _ => True)
        fun _ (later : Nat × List RefusedCall) after =>
          ((∀ refusal ∈ later.2, refusal.method ≠ .createFolder) → after = Vault.empty) ∧
            ((∃ refusal ∈ later.2, refusal.method = .createFolder) →
              ∃ base, wish.Becomes ".kb" base ∧
                after.files.get? (recordPlace ".kb" "work") = some base.record) ∧
            ∀ other, other.name ≠ "work" →
              (after.Keeps ".kb" other ↔ Vault.empty.Keeps ".kb" other) :=
  fun turn _ => add_undone ⟨by decide, by decide⟩ (by decide)
    (Policy.onlyRefuses_refusing [turn] .inputOutput) .empty _ 0

-- The folder of the constraints is not to be made. The addition fails, and what is left
-- of it stands against another try.
theorem add_left_behind :
    let wish : NewKnowledgeBase := ⟨"work", "", "notes/work", ""⟩
    let clock := fun turn => (⟨⟨2024, 5, 17⟩, 8, 30, 0, 0⟩, turn)
    let failing := inMemory (.refusing [3] .inputOutput) clock ".kb"
    let again : Registry (Session Nat) := inMemory .allowing clock ".kb"
    let after := vaultAfter (failing.add wish).run 0 Vault.empty
    result (failing.add wish).run 0 Vault.empty = .error (.storage .inputOutput) ∧
      result again.scan.run 0 Vault.empty = .ok [] ∧
      result again.scan.run 0 after = .ok [.bare "work" "notes/work"] ∧
      result (again.add wish).run 0 after = .error (.knowledgeBaseExists "work") := by
  decide +kernel

end NoteVault
