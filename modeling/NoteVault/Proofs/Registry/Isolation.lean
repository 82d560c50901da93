import Mathlib.Data.List.Pairwise
import NoteVault.Proofs.Registry.Exclusive
import NoteVault.Proofs.Registry.Walk
import NoteVault.Proofs.Storage.Agreement

namespace NoteVault

open Registry Session

-- What belongs to the knowledge base of a name: all that is kept along with its
-- record, and all in its subfolder.
def Vault.Belongs (vault : Vault) (root name path : String) : Prop :=
  KnowledgeBase.checkName name = .ok () ∧ Path.isWithin path (Path.below root name) = true ∨
    ∃ base, vault.Keeps root base ∧ base.name = name ∧ Path.isWithin path base.subfolder = true

section

variable {root name path : String} {vault after : Vault} {base : KnowledgeBase}

theorem isRegion_belongs (vault : Vault) (root name : String) : IsRegion (vault.Belongs root name) := by
  refine ⟨?_, ?_⟩
  · rintro folder path (⟨hname, hw⟩ | ⟨base, hb, hname, hw⟩) hin
    · exact .inl ⟨hname, Path.isWithin_trans hin hw⟩
    · exact .inr ⟨base, hb, hname, Path.isWithin_trans hin hw⟩
  · rintro (⟨-, hw⟩ | ⟨base, ⟨-, text, -, hrecord⟩, -, hw⟩)
    · exact Path.ne_empty_of_isWithin hw (Path.below_ne_empty _ _) rfl
    · exact Path.ne_empty_of_isWithin hw (KnowledgeBase.subfolder_of_ofRecord hrecord).2 rfl

-- What others have, or may take, belongs to no knowledge base of the name.
theorem not_belongs_of_free {owner folder : String} (hfree : vault.Free root owner folder)
    (hne : owner ≠ name) (hw : Path.isWithin path folder = true) : ¬vault.Belongs root name path := by
  rintro (⟨-, hin⟩ | ⟨base, hb, rfl, hin⟩)
  · have hroot := Path.isWithin_trans hin (Path.isWithin_below root name)
    have hapart := hfree.reserved
    rw [Path.overlap_of_isWithin hw hroot] at hapart
    cases hapart
  · have hapart := hfree.apart base hb hne.symm
    rw [Path.overlap_of_isWithin hw hin] at hapart
    cases hapart

-- Nor does what is kept in the root under another name.
theorem not_belongs_of_name (hroot : Path.Clean root) (hne : root ≠ "")
    (hreserved : ∀ base, vault.Keeps root base → Path.overlap base.subfolder root = false)
    (other : String) (hother : KnowledgeBase.checkName name = .ok () → other ≠ name)
    (hnormal : Path.normalize path = path)
    (h : Path.segments root ++ [other.toList] <+: Path.segments path) :
    ¬vault.Belongs root name path := by
  obtain ⟨rest, h⟩ := h
  rw [List.append_assoc, List.singleton_append] at h
  rintro (⟨hname, hin⟩ | ⟨base, hb, -, hin⟩)
  · have hprefix := Path.segments_prefix_of_isWithin hin
    have hisname := (KnowledgeBase.isName_of_checkName hname).1
    rw [← h, Path.segments_below, Path.segments_of_isName hisname, List.prefix_append_right_inj,
      List.cons_prefix_cons] at hprefix
    exact hother hname (String.toList_injective hprefix.1.symm)
  · have hw : Path.isWithin path root = true :=
      Path.isWithin_of_segments_prefix hnormal hroot.normal hne ⟨_, h⟩
    have hapart := hreserved base hb
    rw [Path.overlap_of_isWithin hin hw] at hapart
    cases hapart

theorem belongs_congr (h : ∀ base, after.Keeps root base ↔ vault.Keeps root base) :
    after.Belongs root name path ↔ vault.Belongs root name path := by
  simp only [Vault.Belongs, h]

end

section

variable {σ α : Type} {clock : σ → Time.Instant × σ} {root owner name : String} {state : σ}
  {vault : Vault}

variable (hroot : Path.Clean root) (hne : root ≠ "")
include hroot hne

theorem grants_outside (hv : vault.Apart root) (howner : owner ≠ name) :
    vault.Grants root owner fun path => ¬IsRecordPlace root path ∧ ¬vault.Belongs root name path where
  record hname h := h.1 ⟨owner, (KnowledgeBase.isName_of_checkName hname).1, rfl⟩
  notes base hb hsame _ hw :=
    ⟨not_isRecordPlace_of_apart (hv.reserved base hb) hw,
      not_belongs_of_free (hv.free hb) (hsame ▸ howner) hw⟩
  constraints hname file := by
    have hisname := (KnowledgeBase.isName_of_checkName hname).1
    refine ⟨hv.grants.constraints hname file, ?_⟩
    refine not_belongs_of_name hroot hne hv.reserved owner (fun _ => howner) (Path.normalize_normalize _) ?_
    rw [Path.segments_normalize, Path.segments_below, Path.segments_below, Path.segments_below,
      Path.segments_of_isName hisname, List.append_assoc]
    exact List.prefix_append _ _

theorem not_belongs_recordPlace (hv : vault.Apart root) (howner : owner ≠ name)
    (hisname : Path.IsName owner.toList) (hclean : Path.Clean (recordPlace root owner)) :
    ¬vault.Belongs root name (recordPlace root owner) := by
  refine not_belongs_of_name hroot hne hv.reserved owner (fun _ => howner) hclean.normal ?_
  rw [recordPlace, Path.segments_below, Path.segments_below, Path.segments_of_isName hisname]
  exact List.prefix_append _ _

theorem not_belongs_indexPlace (hv : vault.Apart root) :
    ¬vault.Belongs root name (indexPlace root) := by
  refine not_belongs_of_name hroot hne hv.reserved KnowledgeBase.listName ?_
    (clean_indexPlace hroot hne).normal ?_
  · intro hname hsame
    rw [← hsame] at hname
    exact absurd hname (by decide)
  · have hlist : Path.IsName KnowledgeBase.listName.toList := by decide
    rw [indexPlace, Path.segments_below, Path.segments_of_isName hlist]

-- An update of one knowledge base leaves alone what belongs to another.
theorem ends_update_outside (hv : vault.Apart root) (howner : owner ≠ name)
    (change : KnowledgeBaseChange) :
    Ends ((inMemory .allowing clock root).update owner change) state vault
      (fun _ _ after => vault.Confined (fun path => ¬vault.Belongs root name path) after)
      fun _ _ after => vault.Confined (fun path => ¬vault.Belongs root name path) after := by
  have hroom : ∀ {base : KnowledgeBase} {folder : String} {middle : Vault}, base.name = owner →
      vault.MakesRoom root base folder middle →
        vault.Confined (fun path => ¬vault.Belongs root name path) middle := by
    intro base folder middle hname hmakes
    refine hmakes.confined.mono fun path hpath => ?_
    rw [hpath]
    exact not_belongs_of_free (hv.free_of_makesRoom hmakes) (hname ▸ howner) (Path.isWithin_self _)
  refine (ends_update_record hroot hne hv.tree change).mono ?_ ?_
  · rintro other _ after ⟨base, folder, middle, rfl, hmakes, -, hrecords, hother, -⟩
    have hsame : other.name = base.name := by rw [hother, KnowledgeBaseChange.applied]
    clear hother
    obtain ⟨hisname, text, hget, -⟩ := hmakes.keeps
    have hclean := hv.tree.file_clean _ (Vault.hasFile_of_get? hget)
    rw [Vault.Records, hsame] at hrecords
    refine (hroom rfl hmakes).trans (((middle.confined_withFile hclean _).mono ?_).trans
      (hrecords.mono ?_))
    · rintro path rfl
      exact not_belongs_recordPlace hroot hne hv howner hisname hclean
    · rintro path rfl
      exact not_belongs_indexPlace hroot hne hv
  · rintro failure _ after (rfl | ⟨base, folder, hname, hmakes⟩)
    · exact .refl _
    · exact hroom hname hmakes

-- Whatever is done for one knowledge base, what belongs to another stays as it is.
theorem ends_outside (clock : σ → Time.Instant × σ) (state : σ) (hv : vault.Apart root)
    {operation : Operation α} (htarget : operation.target? = some owner) (howner : owner ≠ name) :
    Ends ((inMemory .allowing clock root).carryOut operation) state vault
      (fun _ _ after => vault.Confined (fun path => ¬vault.Belongs root name path) after)
      fun _ _ after => vault.Confined (fun path => ¬vault.Belongs root name path) after := by
  by_cases hkind : operation.WritesRecord
  · cases operation with
    | update other change =>
        obtain rfl := Option.some.inj htarget
        exact ends_update_outside hroot hne hv howner change
    | add wish => cases htarget
    | _ => exact hkind.elim
  · have hgrants : ∀ other, operation.target? = some other → vault.Grants root other
        fun path => ¬IsRecordPlace root path ∧ ¬vault.Belongs root name path := by
      intro other hother
      obtain rfl := Option.some.inj (htarget.symm.trans hother)
      exact grants_outside hroot hne hv howner
    have hindex : operation.target? ≠ none := by simp [htarget]
    refine (Works.ends_confined Policy.onlyRefuses_allowing (works_confined hroot hne hkind hgrants
      fun hnone => absurd hnone hindex)).mono ?_ ?_
    · exact fun _ _ after h => h.2.mono fun _ hp => hp.2
    · exact fun _ _ after h => h.mono fun _ hp => hp.2

end

-- The contract of work on what belongs to a knowledge base, except its record.
def Contract.inside (vault : Vault) (root name : String) : Contract where
  asks
    | .call call => (∀ path ∈ call.paths, vault.Belongs root name (Path.normalize path)) ∧
      recordPlace root name ∉ call.places
    | .now => False
    | .depth => False
  hears
    | .call call, answer => ∃ now : Vault, now.files.get? (recordPlace root name) =
      vault.files.get? (recordPlace root name) ∧ answer = (now.perform call).1
    | .now, _ => True
    | .depth, _ => True

section

variable {σ α : Type} {policy : Policy σ} {clock : σ → Time.Instant × σ} {root name : String}
  {state : σ} {vault : Vault}

variable (hroot : Path.Clean root) (hne : root ≠ "")
include hroot hne

theorem keeps_of_inside (hname : KnowledgeBase.checkName name = .ok ()) {base : KnowledgeBase}
    (hbase : (Contract.inside vault root name).Shows (inMemory policy clock root) name base) :
    base.name = name ∧ vault.Keeps root base := by
  obtain ⟨text, ⟨now, hsame, hread⟩, hrecord⟩ := hbase
  obtain ⟨rfl, hisname, found, hget, hfound⟩ := keeps_of_read hroot hne hname hread.symm hrecord
  exact ⟨rfl, hisname, found, hsame ▸ hget, hfound⟩

-- The folder of constraints, and all that lies in it, belongs to the knowledge base.
theorem isWithin_constraints (hname : KnowledgeBase.checkName name = .ok ()) {path : String}
    (h : Path.segments (Path.below (Path.below root name) "folder_constraints") <+:
      Path.segments path) : Path.isWithin (Path.normalize path) (Path.below root name) = true := by
  refine Path.isWithin_of_segments_prefix (Path.normalize_normalize _)
    (clean_folder_of_checkName hroot hne hname).normal (Path.below_ne_empty _ _) ?_
  rw [Path.segments_below] at h
  rw [Path.segments_normalize]
  exact (List.prefix_append _ _).trans h

theorem serves_inside (hname : KnowledgeBase.checkName name = .ok ()) :
    (Contract.inside vault root name).Serves (inMemory policy clock root) name := by
  have hlist : Path.isWithin (Path.normalize ((inMemory policy clock root).constraintFolder name))
      (Path.below root name) = true := by
    rw [constraintFolder, folder, root_inMemory, hroot.normal]
    exact isWithin_constraints hroot hne hname List.prefix_rfl
  refine ⟨⟨fun path hp => ?_, List.not_mem_nil⟩, ⟨fun path hp => ?_, List.not_mem_nil⟩, ?_⟩
  · rw [List.mem_singleton.mp hp, recordPath_inMemory hroot.normal,
      (clean_recordPlace_of_checkName hroot hne hname).normal]
    exact .inl ⟨hname, Path.isWithin_below _ _⟩
  · rw [List.mem_singleton.mp hp]
    exact .inl ⟨hname, hlist⟩
  · rintro listing ⟨now, -, hnow⟩ path hp
    refine ⟨fun raw hraw => ?_, List.not_mem_nil⟩
    rw [List.mem_singleton.mp hraw]
    have hparent := (Vault.list_ok hnow.symm).1 path hp
    exact .inl ⟨hname, Path.isWithin_normalize_of_parent hparent hlist (Path.below_ne_empty _ _)⟩

theorem owns_inside (hv : vault.Apart root) (hname : KnowledgeBase.checkName name = .ok ()) :
    (Contract.inside vault root name).Owns (inMemory policy clock root) name := by
  refine ⟨serves_inside hroot hne hname, fun base hbase α call hwithin => ?_⟩
  obtain ⟨rfl, hkeeps⟩ := keeps_of_inside hroot hne hname hbase
  refine ⟨fun path hp => .inr ⟨base, hkeeps, rfl, hwithin path hp⟩, fun hplace => ?_⟩
  obtain ⟨path, hp, heq⟩ := Call.mem_places hplace
  refine not_isRecordPlace_of_apart (hv.reserved base hkeeps) (hwithin path hp) ?_
  exact heq ▸ ⟨base.name, hkeeps.1, rfl⟩

theorem asks_constraint_inside (hname : KnowledgeBase.checkName name = .ok ()) (file text : String) :
    (Contract.inside vault root name).asks (.call (.write
      (Path.below ((inMemory policy clock root).constraintFolder name) file) text .overwrite)) := by
  have hisname := (KnowledgeBase.isName_of_checkName hname).1
  rw [constraintFolder, folder, root_inMemory, hroot.normal]
  refine ⟨fun path hp => ?_, fun hplace => ?_⟩
  · rw [List.mem_singleton.mp hp]
    refine .inl ⟨hname, isWithin_constraints hroot hne hname ?_⟩
    rw [Path.segments_below _ file]
    exact List.prefix_append _ _
  · have hrecord : IsRecordPlace root (recordPlace root name) := ⟨name, hisname, rfl⟩
    refine not_isRecordPlace_constraints file ?_ hisname hrecord
    rw [List.mem_singleton.mp hplace, Path.segments_normalize]

-- A walk in the subfolder stays in it.
theorem works_walkNotes {folder : String} {recursive : Bool} (levels : Nat) :
    (inMemory policy clock root).Works (.inside vault root name)
      ((inMemory policy clock root).walkNotes name folder recursive levels) fun _ => True := by
  refine .bind (works_require (serves_inside hroot hne)) fun base ⟨hname, hbase⟩ => ?_
  obtain ⟨rfl, hkeeps⟩ := keeps_of_inside hroot hne hname hbase
  refine .bind (.orFail fun start hstart => hstart) fun start hstart => ?_
  obtain ⟨hnormal, hw, -⟩ := KnowledgeBase.resolve_eq_ok hstart
  have hregion := isRegion_belongs vault root base.name
  refine .bind (works_notesIn (fun raw => vault.Belongs root base.name (Path.normalize raw)) ?_ ?_
    recursive levels [start] ?_) fun notes _ => .pure trivial
  · intro raw hraw
    exact ⟨fun path hp => List.mem_singleton.mp hp ▸ hraw, List.not_mem_nil⟩
  · rintro raw listing hraw ⟨now, -, hnow⟩ path hp
    have hparent := ((Vault.list_ok hnow.symm).2 path hp).1
    have hproper : Path.normalize raw ≠ "" := fun hempty => hregion.proper (hempty ▸ hraw)
    exact hregion.inner _ _ hraw
      (Path.isWithin_normalize_of_parent hparent (Path.isWithin_self _) hproper)
  · intro raw hr
    rw [List.mem_singleton.mp hr, hnormal]
    exact .inr ⟨base, hkeeps, rfl, hw⟩

-- Every operation for the knowledge base but an update is work of that kind, if the
-- walk over its folders is given its levels beforehand.
theorem exists_works_inside (clock : σ → Time.Instant × σ) (hv : vault.Apart root)
    {operation : Operation α} (hkind : ¬operation.WritesRecord)
    (htarget : operation.target? = some name) (levels : Nat) :
    ∃ work : Work (Session σ) α,
      (inMemory .allowing clock root).Works (.inside vault root name) work (fun _ => True) ∧
        ∀ (state : σ) (now : Vault), now.IsTree → now.depth ≤ levels →
          ((inMemory .allowing clock root).carryOut operation).run state now = work.run state now := by
  have hserves : KnowledgeBase.checkName name = .ok () →
      (Contract.inside vault root name).Serves (inMemory .allowing clock root) name :=
    serves_inside hroot hne
  have howns : KnowledgeBase.checkName name = .ok () →
      (Contract.inside vault root name).Owns (inMemory .allowing clock root) name :=
    owns_inside hroot hne hv
  cases operation with
  | add | update => exact (hkind trivial).elim
  | list => cases htarget
  | get name =>
      obtain rfl := Option.some.inj htarget
      exact ⟨_, (works_get hserves).mono fun _ _ => trivial, fun _ _ _ _ => rfl⟩
  | addConstraint name subfolder rules =>
      obtain rfl := Option.some.inj htarget
      exact ⟨_, works_addConstraint hserves (asks_constraint_inside hroot hne), fun _ _ _ _ => rfl⟩
  | constraints name =>
      obtain rfl := Option.some.inj htarget
      exact ⟨_, (works_constraints hserves).mono fun _ _ => trivial, fun _ _ _ _ => rfl⟩
  | checkNote name path content =>
      obtain rfl := Option.some.inj htarget
      exact ⟨_, works_checkNote hserves, fun _ _ _ _ => rfl⟩
  | createNote name raw content =>
      obtain rfl := Option.some.inj htarget
      exact ⟨_, works_createNote howns, fun _ _ _ _ => rfl⟩
  | readNote name raw =>
      obtain rfl := Option.some.inj htarget
      exact ⟨_, works_readNote howns, fun _ _ _ _ => rfl⟩
  | updateNote name raw content =>
      obtain rfl := Option.some.inj htarget
      exact ⟨_, works_updateNote howns, fun _ _ _ _ => rfl⟩
  | appendNote name raw addition =>
      obtain rfl := Option.some.inj htarget
      exact ⟨_, works_appendNote howns, fun _ _ _ _ => rfl⟩
  | moveNote name rawSource rawTarget =>
      obtain rfl := Option.some.inj htarget
      exact ⟨_, works_moveNote howns, fun _ _ _ _ => rfl⟩
  | deleteNote name raw =>
      obtain rfl := Option.some.inj htarget
      exact ⟨_, works_deleteNote howns, fun _ _ _ _ => rfl⟩
  | listNotes name folder recursive =>
      obtain rfl := Option.some.inj htarget
      exact ⟨_, works_walkNotes hroot hne levels, fun state now hnow hlevels =>
        run_listNotes hnow name folder recursive hlevels⟩

omit hroot hne in
-- Two runs of such work in vaults that agree on what belongs to the knowledge base.
theorem together_inside {program : Session σ α} {post : α → Prop}
    (h : (inMemory .allowing clock root).Follows (.inside vault root name) program post)
    (state other : σ) {left right : Vault} (hagree : left.Agree (vault.Belongs root name) right)
    (hrecord : left.files.get? (recordPlace root name) = vault.files.get? (recordPlace root name)) :
    Together (fun _ left _ right => left.Agree (vault.Belongs root name) right ∧
      left.files.get? (recordPlace root name) = vault.files.get? (recordPlace root name))
      post program state left other right := by
  refine h.together (fun _ left _ right => left.Agree (vault.Belongs root name) right ∧
    left.files.get? (recordPlace root name) = vault.files.get? (recordPlace root name)) ?_
    state left other right ⟨hagree, hrecord⟩
  rintro β event hasks state left other right ⟨hagree, hrecord⟩
  cases event with
  | call call =>
      obtain ⟨hsame, hafter⟩ := hagree.perform (isRegion_belongs vault root name) hasks.1
      refine ⟨?_, ?_, ?_⟩
      · simpa only [result, respond_allowing] using hsame
      · simp only [result, respond_allowing]
        exact ⟨left, hrecord, rfl⟩
      · simp only [vaultAfter, respond_allowing]
        exact ⟨hafter, ((left.confined_perform call).file _ hasks.2).trans hrecord⟩
  | now => exact hasks.elim
  | depth => exact hasks.elim

-- What else is in the vault makes no difference for the knowledge base.
theorem carryOut_agree (clock : σ → Time.Instant × σ) (state other : σ) (hv : vault.Apart root)
    {operation : Operation α} (hkind : ¬operation.WritesRecord) (htarget : operation.target? = some name)
    {right : Vault} (hagree : vault.Agree (vault.Belongs root name) right) :
    result ((inMemory .allowing clock root).carryOut operation).run other right =
        result ((inMemory .allowing clock root).carryOut operation).run state vault ∧
      (vaultAfter ((inMemory .allowing clock root).carryOut operation).run state vault).Agree
        (vault.Belongs root name)
        (vaultAfter ((inMemory .allowing clock root).carryOut operation).run other right) := by
  obtain ⟨work, hworks, hrun⟩ := exists_works_inside hroot hne clock hv hkind htarget
    (max vault.depth right.depth)
  have hleft := hrun state vault hagree.treeLeft (le_max_left _ _)
  have hright := hrun other right hagree.treeRight (le_max_right _ _)
  have hboth := together_inside hworks state other hagree rfl
  simp only [result, vaultAfter, hleft, hright]
  exact ⟨hboth.same, hboth.rel.1⟩

-- Work on anything but records leaves every knowledge base what it has.
theorem ends_keeps (clock : σ → Time.Instant × σ) (state : σ) (hv : vault.Apart root)
    {operation : Operation α} (hkind : ¬operation.WritesRecord) (htarget : operation.target? = some name) :
    Ends ((inMemory .allowing clock root).carryOut operation) state vault
      (fun _ _ after => after.Apart root ∧ ∀ base, after.Keeps root base ↔ vault.Keeps root base)
      fun _ _ after => after.Apart root ∧ ∀ base, after.Keeps root base ↔ vault.Keeps root base := by
  have hindex : operation.target? ≠ none := by simp [htarget]
  refine (Works.ends_confined Policy.onlyRefuses_allowing (works_confined hroot hne hkind
    (fun _ _ => hv.grants) fun hnone => absurd hnone hindex)).mono ?_ ?_
  · exact fun _ _ after h => ⟨hv.confined h.2 fun _ hp => hp, h.2.keeps_iff fun _ hp => hp⟩
  · exact fun _ _ after h => ⟨hv.confined h fun _ hp => hp, h.keeps_iff fun _ hp => hp⟩

theorem apart_of_scan (hv : vault.IsTree) {bases : List KnowledgeBase}
    (hscan : result (inMemory .allowing clock root).scan.run state vault = .ok bases)
    (hreserved : ∀ base ∈ bases, Path.overlap base.subfolder root = false)
    (hapart : bases.Pairwise fun left right => Path.overlap left.subfolder right.subfolder = false) :
    vault.Apart root := by
  obtain ⟨found, hrun, hfound, -⟩ := run_scan clock state hv hroot hne
  rw [result, hrun] at hscan
  obtain rfl := Except.ok.inj hscan
  have hsymm : Std.Symm fun left right : KnowledgeBase =>
      Path.overlap left.subfolder right.subfolder = false :=
    ⟨fun left right h => (Path.overlap_comm _ _).trans h⟩
  refine ⟨hv, fun base hb => hreserved base ((hfound base).mpr hb), fun base other hb ho hname => ?_⟩
  refine hapart.forall ((hfound base).mpr hb) ((hfound other).mpr ho) ?_
  rintro rfl
  exact hname rfl

-- Knowledge bases with subfolders of their own do not notice each other. Whatever is
-- done for one of them, whether it succeeds or not, work for another one has the same
-- result before and after it, and leaves the same documents of its own.
theorem carryOut_isolated {β : Type} (hv : vault.Reachable) {bases : List KnowledgeBase}
    (hscan : result (inMemory .allowing clock root).scan.run state vault = .ok bases)
    (hreserved : ∀ base ∈ bases, Path.overlap base.subfolder root = false)
    (hapart : bases.Pairwise fun left right => Path.overlap left.subfolder right.subfolder = false)
    {first : Operation α} {second : Operation β} {owner : String}
    (hfirst : first.target? = some owner) (hsecond : second.target? = some name)
    (hkind : ¬second.WritesRecord) (hdistinct : owner ≠ name) :
    let one := ((inMemory .allowing clock root).carryOut first).run
    let two := ((inMemory .allowing clock root).carryOut second).run
    let early := stateAfter one state vault
    let late := stateAfter two state vault
    result two early (vaultAfter one state vault) = result two state vault ∧
      ∀ path, vault.Belongs root name path →
        (vaultAfter two early (vaultAfter one state vault)).files.get? path =
            (vaultAfter two state vault).files.get? path ∧
          (vaultAfter one late (vaultAfter two state vault)).files.get? path =
            (vaultAfter two state vault).files.get? path := by
  intro one two early late
  have hspace := apart_of_scan hroot hne hv.isTree hscan hreserved hapart
  -- first, then second: what belongs to the second is as it was
  have hconfined := (ends_outside hroot hne clock state hspace hfirst hdistinct).vaultAfter
  have hagree : vault.Agree (vault.Belongs root name) (vaultAfter one state vault) :=
    .of_confined (isRegion_belongs vault root name) hv.isTree hconfined fun _ hp => hp
  have hboth := carryOut_agree hroot hne clock state early hspace hkind hsecond hagree
  refine ⟨hboth.1, fun path hp => ⟨hboth.2.file path hp, ?_⟩⟩
  -- second, then first: the first finds the same knowledge bases
  obtain ⟨hlater, hkeeps⟩ := (ends_keeps hroot hne clock state hspace hkind hsecond).vaultAfter
  have hafter := (ends_outside hroot hne clock late hlater hfirst hdistinct).vaultAfter
  exact hafter.file path fun hout => hout ((belongs_congr hkeeps).mpr hp)

end

-- A note of one knowledge base is no concern of another.
theorem createNote_isolated :
    let work : KnowledgeBase := .bare "work" "notes/work"
    let home : KnowledgeBase := .bare "home" "notes/home"
    let registry : Registry (Session Unit) := inMemory .allowing (fun _ => (work.createTime, ())) ".kb"
    let vault := (Vault.empty.withFile (recordPlace ".kb" "work") work.record).withFile
      (recordPlace ".kb" "home") home.record
    let one := (registry.carryOut (.createNote "work" "plan" "Begin.")).run
    let two := (registry.carryOut (.createNote "home" "plan" "End.")).run
    let early := stateAfter one () vault
    let late := stateAfter two () vault
    result two early (vaultAfter one () vault) = result two () vault ∧
      ∀ path, vault.Belongs ".kb" "home" path →
        (vaultAfter two early (vaultAfter one () vault)).files.get? path =
            (vaultAfter two () vault).files.get? path ∧
          (vaultAfter one late (vaultAfter two () vault)).files.get? path =
            (vaultAfter two () vault).files.get? path := by
  intro work home registry vault one two early late
  have hwork : work.IsRecordable :=
    KnowledgeBase.isRecordable_bare ⟨by decide, by decide⟩ (by decide) (by decide)
  have hhome : home.IsRecordable :=
    KnowledgeBase.isRecordable_bare ⟨by decide, by decide⟩ (by decide) (by decide)
  have hcleanWork : Path.Clean (recordPlace ".kb" "work") := ⟨by decide, by decide⟩
  have hcleanHome : Path.Clean (recordPlace ".kb" "home") := ⟨by decide, by decide⟩
  have hnone : ∀ base, ¬Vault.empty.Keeps ".kb" base := by
    rintro base ⟨-, text, hget, -⟩
    cases hget
  have hfirst : (Vault.empty.withFile (recordPlace ".kb" "work") work.record).Exclusive ".kb" :=
    (exclusive_empty ".kb").withFile work hcleanWork (by decide) hwork
      ⟨by decide, fun other ho => (hnone other ho).elim⟩
  have hboth : vault.Exclusive ".kb" := by
    refine hfirst.withFile home hcleanHome (by decide) hhome ⟨by decide, fun other ho hne => ?_⟩
    rcases Vault.keeps_of_withFile work (by decide) (KnowledgeBase.ofRecord_bare hwork) ho with
      hsame | ⟨-, ho⟩
    · rw [hsame]
      decide
    · exact (hnone other ho).elim
  have hreach : vault.Reachable := (Vault.Reachable.empty.withFile hcleanWork _).withFile hcleanHome _
  have hroot : Path.Clean ".kb" := ⟨by decide, by decide⟩
  obtain ⟨bases, hrun, hbases, hnames⟩ :=
    run_scan (fun _ => (work.createTime, ())) () hboth.tree hroot (by decide)
  have hkeeps : ∀ base ∈ bases, vault.Keeps ".kb" base := fun base => (hbases base).mp
  have hscan : result registry.scan.run () vault = .ok bases := by rw [result, hrun]
  exact carryOut_isolated hroot (by decide) hreach hscan
    (fun base hb => hboth.reserved base (hkeeps base hb)) (hboth.pairwise hkeeps hnames) rfl rfl id
    (by decide)

end NoteVault
