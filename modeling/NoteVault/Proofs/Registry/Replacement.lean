import NoteVault.Proofs.Registry.ByName
import NoteVault.Proofs.Registry.Filed
import NoteVault.Proofs.Registry.Isolation
import NoteVault.Proofs.Registry.Learned

namespace NoteVault

open Registry Session

namespace Vault

section

variable {root name path : String} {keep : String → Bool} {vault after : Vault}
  {constraint : Constraint}

theorem byName_documentsOf (vault : Vault) (root name : String) :
    ByName id (vault.documentsOf root name) :=
  (vault.files.keys_sorted.filter _).filter _

-- Vaults with the same documents of a kind list these documents alike.
theorem documentsOf_filter_congr (h : ∀ path, keep path = true →
      Path.parent path = constraintsPlace root name → after.hasFile path = vault.hasFile path) :
    (after.documentsOf root name).filter keep = (vault.documentsOf root name).filter keep := by
  refine ByName.eq_of_mem_iff ((byName_documentsOf after root name).filter keep)
    ((byName_documentsOf vault root name).filter keep) fun path => ?_
  simp only [List.mem_filter, mem_documentsOf]
  constructor
  · rintro ⟨⟨hfile, hparent, hnote⟩, hkeep⟩
    exact ⟨⟨h path hkeep hparent ▸ hfile, hparent, hnote⟩, hkeep⟩
  · rintro ⟨⟨hfile, hparent, hnote⟩, hkeep⟩
    exact ⟨⟨(h path hkeep hparent).trans hfile, hparent, hnote⟩, hkeep⟩

-- The constraints that their subfolders place in documents of a kind are those in these
-- documents.
theorem Filed.filter_constraintsOf (hv : vault.Filed root) (hname : Path.IsName name.toList)
    (keep : String → Bool) :
    (vault.constraintsOf root name).filter
        (fun constraint => keep (constraintPlace root name constraint.subfolder)) =
      ((vault.documentsOf root name).filter keep).filterMap (vault.constraintAt? name) := by
  rw [constraintsOf, List.filter_filterMap, List.filterMap_filter]
  refine List.filterMap_congr fun path hpath => ?_
  cases hread : vault.constraintAt? name path with
  | none => simp
  | some constraint =>
      obtain ⟨text, hget, hdocument⟩ :=
        (constraintAt?_eq_some (hv.tree.clean_of_mem_documentsOf hpath)).mp hread
      have hplace := hv.place name hname path text constraint hget (mem_documentsOf.mp hpath).2.1
        hdocument
      rw [Option.filter_some, ← hplace]

-- A constraint that is put on record leaves the other documents.
theorem Constrains.filter_ne (h : vault.Constrains root constraint after) (hv : vault.Filed root)
    (hafter : after.Filed root) :
    (after.constraintsOf root constraint.knowledgeBase).filter
        (fun found => Path.plainName found.subfolder ≠ Path.plainName constraint.subfolder) =
      (vault.constraintsOf root constraint.knowledgeBase).filter
        (fun found => Path.plainName found.subfolder ≠ Path.plainName constraint.subfolder) := by
  obtain ⟨hname, -, -, rfl⟩ := h
  have hisname := (KnowledgeBase.isName_of_checkName hname).1
  let place := constraintPlace root constraint.knowledgeBase constraint.subfolder
  have hout := fun vault (hv : Filed vault root) =>
    hv.filter_constraintsOf hisname fun path => path ≠ place
  have hlisted : ((vault.withFile place constraint.document).documentsOf root
      constraint.knowledgeBase).filter (fun path => path ≠ place) =
        (vault.documentsOf root constraint.knowledgeBase).filter fun path => path ≠ place := by
    refine documentsOf_filter_congr fun path hne _ => ?_
    rw [hasFile, SortedMap.contains, get?_withFile, if_neg (of_decide_eq_true hne)]
    rfl
  simp only [place, ne_eq, constraintPlace_eq_iff] at hout hlisted
  simp only [ne_eq]
  rw [hout _ hafter, hout _ hv, hlisted]
  refine List.filterMap_congr fun path hpath => ?_
  obtain ⟨hm, hne⟩ := List.mem_filter.mp hpath
  have hclean := hv.tree.clean_of_mem_documentsOf hm
  rw [constraintAt?_of_clean hclean, constraintAt?_of_clean hclean, get?_withFile,
    if_neg (of_decide_eq_true hne)]

-- What its own document shows, if anything, is what is found in it.
theorem Constrains.filter_shown (h : vault.Constrains root constraint after)
    (hafter : after.Filed root) :
    (after.constraintsOf root constraint.knowledgeBase).filter
      (fun found => Path.plainName found.subfolder = Path.plainName constraint.subfolder) =
        (Constraint.ofDocument constraint.knowledgeBase constraint.document).toOption.toList := by
  obtain ⟨hname, -, -, rfl⟩ := h
  have hisname := (KnowledgeBase.isName_of_checkName hname).1
  let place := constraintPlace root constraint.knowledgeBase constraint.subfolder
  have hin := hafter.filter_constraintsOf hisname fun path => path = place
  simp only [place, constraintPlace_eq_iff] at hin
  have hget : (vault.withFile place constraint.document).files.get? place =
      some constraint.document := by
    rw [get?_withFile, if_pos rfl]
  have hlisted : place ∈ (vault.withFile place constraint.document).documentsOf root
      constraint.knowledgeBase :=
    mem_documentsOf.mpr ⟨hasFile_of_get? hget, parent_constraintPlace _ _ _, isNote_constraintPlace _ _ _⟩
  have hnodup : ((vault.withFile place constraint.document).documentsOf root
      constraint.knowledgeBase).Nodup := by
    have hnames := (byName_documentsOf (vault.withFile place constraint.document) root
      constraint.knowledgeBase).nodup
    rwa [List.map_id] at hnames
  have hfound : (vault.withFile place constraint.document).constraintAt? constraint.knowledgeBase
      place = (Constraint.ofDocument constraint.knowledgeBase constraint.document).toOption := by
    rw [constraintAt?_of_clean (hafter.tree.clean_of_mem_documentsOf hlisted), hget, Option.bind_some]
  rw [hin, List.filter_eq, List.count_eq_one_of_mem hnodup hlisted, List.replicate_one,
    List.filterMap_cons, hfound, List.filterMap_nil]
  cases (Constraint.ofDocument constraint.knowledgeBase constraint.document).toOption <;> rfl

theorem Constrains.filter_eq (h : vault.Constrains root constraint after) (hafter : after.Filed root)
    (hread : Constraint.ofDocument constraint.knowledgeBase constraint.document = .ok constraint) :
    (after.constraintsOf root constraint.knowledgeBase).filter
      (fun found => Path.plainName found.subfolder = Path.plainName constraint.subfolder) =
        [constraint] := by
  rw [h.filter_shown hafter, hread]
  rfl

end

end Vault

theorem filter_subfolder_of_plainName {constraint : Constraint} {constraints : List Constraint}
    (h : constraints.filter (fun found => Path.plainName found.subfolder =
      Path.plainName constraint.subfolder) = [constraint]) :
    constraints.filter (fun found => found.subfolder = constraint.subfolder) = [constraint] := by
  have hboth : constraints.filter (fun found => found.subfolder = constraint.subfolder) =
      (constraints.filter fun found => Path.plainName found.subfolder =
        Path.plainName constraint.subfolder).filter
          fun found => found.subfolder = constraint.subfolder := by
    rw [List.filter_filter]
    refine List.filter_congr fun found _ => ?_
    by_cases hsame : found.subfolder = constraint.subfolder
    · simp [hsame]
    · simp [hsame]
  rw [hboth, h]
  simp

section

variable {σ : Type} {clock : σ → Time.Instant × σ} {root name : String} {vault after : Vault}
  {constraint : Constraint}

variable (hroot : Path.Clean root) (hne : root ≠ "")
include hroot hne

-- The constraints of a knowledge base on record are those of its documents.
theorem run_constraints (clock : σ → Time.Instant × σ) (state : σ) (hv : vault.IsTree)
    {base : KnowledgeBase} (hname : KnowledgeBase.checkName base.name = .ok ())
    (hb : vault.Keeps root base) :
    ((inMemory .allowing clock root).constraints base.name).run state vault =
      ((.ok (vault.constraintsOf root base.name), state), vault) := by
  have hget := run_get clock state hroot.normal hname
    (clean_recordPlace_of_checkName hroot hne hname) hb
  have hplace := clean_constraintsPlace hroot hne hname
  have hlist : (listingOf (inMemory .allowing clock root).storage
      (constraintsPlace root base.name)).run state vault = _ := run_listingOf hplace.stays
  rw [hplace.normal, hv.listing_or_empty (constraintsPlace_ne_empty root base.name)] at hlist
  have hread : ((vault.documentsOf root base.name).mapM
      ((inMemory .allowing clock root).constraintAt? base.name)).run state vault =
      ((.ok ((vault.documentsOf root base.name).map (vault.constraintAt? base.name)), state), vault) :=
    run_mapM fun path _ => run_constraintAt base.name path
  have hfound : ((vault.documentsOf root base.name).map (vault.constraintAt? base.name)).filterMap id =
      vault.constraintsOf root base.name := by
    rw [List.filterMap_map, Function.id_comp, Vault.constraintsOf]
  unfold Registry.constraints
  rw [run_bind_ok (run_require hget), constraintFolder_inMemory hroot.normal, run_bind_ok hlist,
    ← Vault.documentsOf, run_bind_ok hread, hfound]
  rfl

theorem Vault.Constrains.keeps_iff (h : vault.Constrains root constraint after) (base : KnowledgeBase) :
    after.Keeps root base ↔ vault.Keeps root base := by
  obtain ⟨hname, -, -, rfl⟩ := h
  refine (vault.confined_withFile (clean_constraintPlace hroot hne hname _) _).keeps_iff ?_ base
  intro path hpath
  rw [hpath]
  exact not_isRecordPlace_constraintPlace (KnowledgeBase.isName_of_checkName hname).1 _

-- A constraint that is put on record does not belong to other knowledge bases.
theorem Vault.Constrains.agree (h : vault.Constrains root constraint after) (hv : vault.Filed root)
    (hother : constraint.knowledgeBase ≠ name) : vault.Agree (vault.Belongs root name) after := by
  obtain ⟨hname, -, -, rfl⟩ := h
  have hisname := (KnowledgeBase.isName_of_checkName hname).1
  have hclean := clean_constraintPlace hroot hne hname constraint.subfolder
  refine .of_confined (isRegion_belongs vault root name) hv.tree (vault.confined_withFile hclean _)
    fun path hpath => ?_
  rw [hpath]
  refine not_belongs_of_name hroot hne hv.reserved constraint.knowledgeBase (fun _ => hother)
    hclean.normal ?_
  rw [constraintPlace, constraintsPlace, Path.segments_below, Path.segments_below, Path.segments_below,
    Path.segments_of_isName hisname, List.append_assoc]
  exact List.prefix_append _ _

theorem Vault.Constrains.result_other (h : vault.Constrains root constraint after)
    (hv : vault.Filed root) (hother : constraint.knowledgeBase ≠ name) (state next : σ) :
    result ((inMemory .allowing clock root).constraints name).run next after =
      result ((inMemory .allowing clock root).constraints name).run state vault :=
  (together_inside (works_constraints (serves_inside hroot hne)) state next
    (h.agree hroot hne hv hother) rfl).same

-- Whatever was ordered since the vault was empty, a constraint that is added is found once
-- in place of all those with its plain name, and no other constraint is changed. It is
-- added whenever a knowledge base has the folder, and a failure changes nothing. Where the
-- root has a blank, orders must not ask for subfolders with a line end, which a record
-- shows as a blank: such a subfolder could hold the records themselves.
theorem addConstraint_replaces (orders : List Order)
    (hlines : ' ' ∉ root.toList ∨ ∀ order ∈ orders, order.2.AsksOneLine)
    {value : Json.Value} {rules : Rules} (hwords : value.fitsWords = true)
    (hrules : Rules.checkedOfJson value = .ok rules)
    (hdoubles : ∀ field ∈ rules.requiredFields, ∀ values, field.allowedValues = some values →
      ∀ double, .number (.double double) ∈ values →
        Json.read (Json.Value.number (.double double)).compact = some (.number (.double double)))
    (name : String) {raw : String} (hraw : IsSingleLine raw) (state : σ) :
    let registry := inMemory .allowing clock root
    let later := stateAfter (registry.carryOutAll orders) state Vault.empty
    let reached := vaultAfter (registry.carryOutAll orders) state Vault.empty
    Ends (registry.addConstraint name raw rules) later reached
      (fun constraint next after => constraint = ⟨name, Path.normalize raw, rules⟩ ∧
        (∃ before now,
          (registry.constraints name).run later reached = ((.ok before, later), reached) ∧
          (registry.constraints name).run next after = ((.ok now, next), after) ∧
          now.filter (fun found => found.subfolder = constraint.subfolder) = [constraint] ∧
          now.filter (fun found => Path.plainName found.subfolder =
            Path.plainName constraint.subfolder) = [constraint] ∧
          now.filter (fun found => Path.plainName found.subfolder ≠
              Path.plainName constraint.subfolder) =
            before.filter fun found => Path.plainName found.subfolder ≠
              Path.plainName constraint.subfolder) ∧
        ∀ other, other ≠ name → result (registry.constraints other).run next after =
          result (registry.constraints other).run later reached)
      fun _ _ after => after = reached ∧ ∀ base folder,
        (registry.get name).run later reached = ((.ok (some base), later), reached) →
          Path.folder raw = .ok folder → Path.isWithin folder base.subfolder = false := by
  intro registry later reached
  have hv : reached.Filed root := filed_carryOutAll hroot hne (filed_empty root) orders hlines
  obtain ⟨hjson, hcheck⟩ := Rules.checkedOfJson_eq_ok hrules
  refine (ends_addConstraint hroot hne clock later reached name raw rules).mono ?_ ?_
  · rintro constraint next after ⟨rfl, hput⟩
    have hafter := hv.constrains hroot hne hput
    have hwritable : rules.IsWritable :=
      ⟨Rules.isShaped_of_ofJson hjson, Rules.fitsWords_of_ofJson hwords hjson, hdoubles⟩
    have hread := Constraint.ofDocument_of_normal ⟨name, Path.normalize raw, rules⟩ hwritable
      hput.normal (isSingleLine_normalize hraw)
    have hown := hput.filter_eq hafter hread
    obtain ⟨base, hname, hb⟩ := hput.kept
    obtain rfl : base.name = name := hname
    have hlater := (hput.keeps_iff hroot hne base).mpr hb
    exact ⟨rfl, ⟨_, _, run_constraints hroot hne clock later hv.tree hput.checked hb,
      run_constraints hroot hne clock next hafter.tree hput.checked hlater,
      filter_subfolder_of_plainName hown, hown, hput.filter_ne hv hafter⟩,
      fun other hother => hput.result_other hroot hne hv hother.symm later next⟩
  · rintro failure _ after ⟨rfl, hfailed⟩
    refine ⟨rfl, fun base folder hget hfolder => ?_⟩
    obtain ⟨hname, hsame, hb⟩ := keeps_of_get hroot hne hget
    rw [Bool.eq_false_iff]
    exact fun hw => hfailed base folder hname hsame hb hfolder hw hcheck

end

-- The folder shares its document with another one, whose constraint gives way.
theorem addConstraint_replaces_shared :
    let registry : Registry (Session Unit) :=
      inMemory .allowing (fun _ => (⟨⟨2024, 5, 17⟩, 8, 30, 0, 0⟩, ())) ".kb"
    let value : Json.Value := .object [("content", .object [("min_length", .number (.integer 2))])]
    let rules : Rules := ⟨none, none, some ⟨some 2, none, none⟩⟩
    let orders : List Order := [⟨_, .add ⟨"team", "", "docs", ""⟩⟩,
      ⟨_, .addConstraint "team" "docs/a/b" ⟨none, none, some ⟨some 1, none, none⟩⟩⟩]
    let later := stateAfter (registry.carryOutAll orders) () Vault.empty
    let reached := vaultAfter (registry.carryOutAll orders) () Vault.empty
    Rules.checkedOfJson value = .ok rules ∧
    Ends (registry.addConstraint "team" "docs/a_b" rules) later reached
      (fun constraint next after => constraint = ⟨"team", "docs/a_b", rules⟩ ∧
        (∃ before now,
          (registry.constraints "team").run later reached = ((.ok before, later), reached) ∧
          (registry.constraints "team").run next after = ((.ok now, next), after) ∧
          now.filter (fun found => found.subfolder = constraint.subfolder) = [constraint] ∧
          now.filter (fun found => Path.plainName found.subfolder =
            Path.plainName constraint.subfolder) = [constraint] ∧
          now.filter (fun found => Path.plainName found.subfolder ≠
              Path.plainName constraint.subfolder) =
            before.filter fun found => Path.plainName found.subfolder ≠
              Path.plainName constraint.subfolder) ∧
        ∀ other, other ≠ "team" → result (registry.constraints other).run next after =
          result (registry.constraints other).run later reached)
      fun _ _ after => after = reached ∧ ∀ base folder,
        (registry.get "team").run later reached = ((.ok (some base), later), reached) →
          Path.folder "docs/a_b" = .ok folder → Path.isWithin folder base.subfolder = false := by
  intro registry value rules orders later reached
  have hrules : Rules.checkedOfJson value = .ok rules := by decide
  exact ⟨hrules, addConstraint_replaces ⟨by decide, by decide⟩ (by decide) orders (.inl (by decide))
    (by decide) hrules (fun field hfield => nomatch hfield) "team" (by decide) ()⟩

-- The constraint for docs/a_b takes the place of the one for docs/a/b.
example :
    let team : KnowledgeBase := .bare "team" "docs"
    let registry : Registry (Session Unit) := inMemory .allowing (fun _ => (team.createTime, ())) ".kb"
    let vault := Vault.empty.withFile (recordPlace ".kb" "team") team.record
    let first := vaultAfter (registry.addConstraint "team" "docs/a/b" ⟨none, none, none⟩).run () vault
    let second := vaultAfter (registry.addConstraint "team" "docs/a_b" ⟨none, none, none⟩).run () first
    result (registry.constraints "team").run () first =
        .ok [⟨"team", "docs/a/b", ⟨none, none, none⟩⟩] ∧
      result (registry.constraints "team").run () second =
        .ok [⟨"team", "docs/a_b", ⟨none, none, none⟩⟩] := by
  decide +kernel

end NoteVault
