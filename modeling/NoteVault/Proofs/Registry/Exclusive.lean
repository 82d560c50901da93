import NoteVault.Proofs.KnowledgeBase.RoundTrip
import NoteVault.Proofs.Registry.Apart

namespace NoteVault

open Registry Session

-- The knowledge bases of the vault keep to subfolders of their own, and their records
-- can be read.
structure Vault.Exclusive (vault : Vault) (root : String) : Prop extends vault.Apart root where
  recordable : ∀ base, vault.Keeps root base → base.IsRecordable

theorem exclusive_empty (root : String) : Vault.empty.Exclusive root := by
  have hnone : ∀ base, ¬Vault.empty.Keeps root base := by
    rintro base ⟨-, text, hget, -⟩
    cases hget
  refine ⟨⟨Vault.isTree_empty, fun base hb => ?_, fun base _ hb => ?_⟩, fun base hb => ?_⟩
  all_goals exact (hnone base hb).elim

section

variable {root : String} {places : String → Prop} {vault after : Vault} {base written : KnowledgeBase}

-- A record that is found later is the one written now, or an old one of another name.
theorem Vault.keeps_withFile_cases (written : KnowledgeBase) (hname : Path.IsName written.name.toList)
    (hb : (vault.withFile (recordPlace root written.name) written.record).Keeps root base) :
    base.name = written.name ∧ KnowledgeBase.ofRecord written.name written.record = .ok base ∨
      base.name ≠ written.name ∧ vault.Keeps root base := by
  obtain ⟨hbase, text, hget, hrecord⟩ := hb
  rw [get?_withFile] at hget
  split at hget
  · rename_i hplace
    have heq := recordPlace_injective hbase hname hplace
    rw [heq, ← Option.some.inj hget] at hrecord
    exact .inl ⟨heq, hrecord⟩
  · rename_i hplace
    exact .inr ⟨fun heq => hplace (by rw [heq]), hbase, text, hget, hrecord⟩

theorem Vault.keeps_of_withFile (written : KnowledgeBase) {read : KnowledgeBase}
    (hname : Path.IsName written.name.toList)
    (hread : KnowledgeBase.ofRecord written.name written.record = .ok read)
    (hb : (vault.withFile (recordPlace root written.name) written.record).Keeps root base) :
    base = read ∨ base.name ≠ written.name ∧ vault.Keeps root base := by
  refine (keeps_withFile_cases written hname hb).imp_left fun ⟨_, hrecord⟩ => ?_
  exact Except.ok.inj (hrecord.symm.trans hread)

namespace Vault.Records

variable {other : KnowledgeBase} (h : vault.Records root written places after)
  (hplaces : ∀ path, places path → ¬IsRecordPlace root path)
include h hplaces

theorem keeps_cases (hname : Path.IsName written.name.toList) (hb : after.Keeps root other) :
    other.name = written.name ∧ KnowledgeBase.ofRecord written.name written.record = .ok other ∨
      other.name ≠ written.name ∧ vault.Keeps root other :=
  keeps_withFile_cases written hname ((Confined.keeps_iff h hplaces other).mp hb)

theorem keeps_of_ofRecord (hname : Path.IsName written.name.toList)
    (hread : KnowledgeBase.ofRecord written.name written.record = .ok other) :
    after.Keeps root other := by
  have hsame := KnowledgeBase.name_of_ofRecord hread
  rw [Confined.keeps_iff h hplaces, Keeps, hsame]
  exact ⟨hname, written.record, by rw [get?_withFile, if_pos rfl], hread⟩

-- A record says nothing of knowledge bases of other names.
theorem keeps_iff (hname : Path.IsName written.name.toList) (hne : other.name ≠ written.name) :
    after.Keeps root other ↔ vault.Keeps root other := by
  rw [Confined.keeps_iff h hplaces, Keeps, Keeps]
  refine and_congr_right fun hother => ?_
  rw [get?_withFile, if_neg fun hplace => hne (recordPlace_injective hother hname hplace)]

end Vault.Records

namespace Vault.Exclusive

theorem confined (hv : vault.Exclusive root) (h : vault.Confined places after)
    (hplaces : ∀ path, places path → ¬IsRecordPlace root path) : after.Exclusive root :=
  ⟨hv.toApart.confined h hplaces, fun base hb => hv.recordable base ((h.keeps_iff hplaces base).mp hb)⟩

-- The record of a knowledge base in a free folder may be written.
theorem withFile (hv : vault.Exclusive root) (written : KnowledgeBase)
    (hclean : Path.Clean (recordPlace root written.name))
    (hname : Path.IsName written.name.toList) (hwritten : written.IsRecordable)
    (hfree : vault.Free root written.name written.subfolder) :
    (vault.withFile (recordPlace root written.name) written.record).Exclusive root := by
  obtain ⟨read, hread, hsame, hfolder, hrecordable⟩ := hwritten.ofRecord
  have hfound : ∀ base, (vault.withFile (recordPlace root written.name) written.record).Keeps root
      base → base = read ∨ base.name ≠ written.name ∧ vault.Keeps root base :=
    fun _ => keeps_of_withFile written hname hread
  refine ⟨⟨hv.tree.withFile hclean _, fun base hb => ?_, fun base other hb ho hne => ?_⟩,
    fun base hb => ?_⟩
  · rcases hfound base hb with rfl | ⟨-, hb⟩
    · rw [hfolder]
      exact hfree.reserved
    · exact hv.reserved base hb
  · rcases hfound base hb with rfl | ⟨hb', hb⟩ <;> rcases hfound other ho with rfl | ⟨ho', ho⟩
    · exact absurd rfl hne
    · rw [hfolder]
      exact hfree.apart other ho ho'
    · rw [Path.overlap_comm, hfolder]
      exact hfree.apart base hb hb'
    · exact hv.apart base other hb ho hne
  · rcases hfound base hb with rfl | ⟨-, hb⟩
    · exact hrecordable
    · exact hv.recordable base hb

theorem records (hv : vault.Exclusive root) (hclean : Path.Clean (recordPlace root written.name))
    (hname : Path.IsName written.name.toList) (hwritten : written.IsRecordable)
    (hfree : vault.Free root written.name written.subfolder)
    (h : vault.Records root written places after)
    (hplaces : ∀ path, places path → ¬IsRecordPlace root path) : after.Exclusive root :=
  (hv.withFile written hclean hname hwritten hfree).confined h hplaces

end Vault.Exclusive

theorem not_isRecordPlace_furniture {path : String} (hname : Path.IsName base.name.toList)
    (hclean : Path.Clean base.subfolder) (hreserved : Path.overlap base.subfolder root = false)
    (h : IsFurniture root base path) : ¬IsRecordPlace root path := by
  rcases h with rfl | rfl | rfl
  · refine not_isRecordPlace_constraints "" ?_ hname
    rw [Path.segments_normalize, Path.segments_below _ "", Path.segments_empty, List.append_nil]
  · rw [hclean.normal]
    exact not_isRecordPlace_of_apart hreserved (Path.isWithin_self _)
  · exact not_isRecordPlace_indexPlace root

section

variable {σ : Type} {clock : σ → Time.Instant × σ} {wish : NewKnowledgeBase}

theorem Vault.Adds.isName (h : vault.Adds root clock wish base after) :
    Path.IsName base.name.toList :=
  (KnowledgeBase.isName_of_checkName h.admits.checked).1

theorem Vault.Adds.not_isRecordPlace (h : vault.Adds root clock wish base after) (path : String)
    (hpath : IsFurniture root base path) : ¬IsRecordPlace root path :=
  not_isRecordPlace_furniture h.isName (Path.folder_eq_ok h.admits.folder).2.1
    h.admits.free.reserved hpath

end

end

-- The subfolder that an operation asks for, if it does, is written on one line.
def Operation.AsksOneLine {α : Type} : Operation α → Prop
  | .add wish => IsSingleLine wish.subfolder
  | .update _ change => ∀ raw, change.subfolder = some raw → IsSingleLine raw
  | _ => True

-- A clock that shows instants of the calendar, in years of four digits.
def ShowsPlainYears {σ : Type} (clock : σ → Time.Instant × σ) : Prop :=
  ∀ state, (clock state).1.isValid = true ∧
    0 ≤ (clock state).1.date.year ∧ (clock state).1.date.year ≤ 9999

section

variable {σ α : Type} {clock : σ → Time.Instant × σ} {root name : String} {state : σ} {vault : Vault}

theorem isRecordable_of_admits (hclock : ShowsPlainYears clock) {wish : NewKnowledgeBase}
    (hline : IsSingleLine wish.subfolder) {base : KnowledgeBase}
    (h : vault.Admits root clock wish base) : base.IsRecordable := by
  obtain ⟨heq, hclean, hne⟩ := Path.folder_eq_ok h.folder
  obtain ⟨shown, htime⟩ := h.clock
  refine ⟨hclean, hne, ?_, ?_⟩
  · rw [heq]
    exact isSingleLine_normalize hline
  · rw [htime]
    exact Time.Instant.ofText?_text (hclock shown).1 (hclock shown).2

theorem isRecordable_of_update {base : KnowledgeBase} {change : KnowledgeBaseChange} {folder : String}
    (hbase : base.IsRecordable) (hline : ∀ raw, change.subfolder = some raw → IsSingleLine raw)
    (hfolder : folder = base.subfolder ∨
      ∃ raw, change.subfolder = some raw ∧ Path.folder raw = .ok folder) :
    { change.applied base with subfolder := folder }.IsRecordable := by
  rcases hfolder with rfl | ⟨raw, hraw, hfolder⟩
  · exact ⟨hbase.clean, hbase.nonempty, hbase.line, hbase.time⟩
  · obtain ⟨rfl, hclean, hnonempty⟩ := Path.folder_eq_ok hfolder
    exact ⟨hclean, hnonempty, isSingleLine_normalize (hline raw hraw), hbase.time⟩

section

variable (hroot : Path.Clean root) (hne : root ≠ "")
include hroot hne

theorem ends_add_exclusive (hv : vault.Exclusive root) (hclock : ShowsPlainYears clock)
    {wish : NewKnowledgeBase} (hline : IsSingleLine wish.subfolder) :
    Ends ((inMemory .allowing clock root).add wish) state vault
      (fun _ _ after => after.Exclusive root) fun _ _ after => after.Exclusive root := by
  have hadds : ∀ {base : KnowledgeBase} {after : Vault}, vault.Adds root clock wish base after →
      after.Exclusive root := by
    intro base after h
    have hrecordable := isRecordable_of_admits hclock hline h.admits
    exact hv.records (clean_recordPlace_of_checkName hroot hne h.admits.checked) h.isName hrecordable
      h.admits.free h.records h.not_isRecordPlace
  refine (ends_add_record hroot hne hv.tree wish).mono ?_ ?_
  · exact fun base _ after h => hadds h
  · rintro failure _ after (rfl | ⟨base, h⟩)
    · exact hv
    · exact hadds h

theorem ends_update_exclusive (hv : vault.Exclusive root) {change : KnowledgeBaseChange}
    (hline : ∀ raw, change.subfolder = some raw → IsSingleLine raw) :
    Ends ((inMemory .allowing clock root).update name change) state vault
      (fun _ _ after => after.Exclusive root) fun _ _ after => after.Exclusive root := by
  -- a folder that a knowledge base has or may take is apart from the records
  have hroom : ∀ {base : KnowledgeBase} {folder : String} {middle : Vault},
      vault.MakesRoom root base folder middle →
        middle.Exclusive root ∧ middle.Free root base.name folder := by
    intro base folder middle hmakes
    have hfree := hv.free_of_makesRoom hmakes
    have hplaces : ∀ path, path = folder → ¬IsRecordPlace root path := by
      intro path hpath
      rw [hpath]
      exact not_isRecordPlace_of_apart hfree.reserved (Path.isWithin_self _)
    exact ⟨hv.confined hmakes.confined hplaces, hfree.confined hmakes.confined hplaces⟩
  refine (ends_update_record hroot hne hv.tree change).mono ?_ ?_
  · rintro other _ after ⟨base, folder, middle, -, hmakes, -, hrecords, hother, hfolder⟩
    obtain ⟨hmiddle, hfree⟩ := hroom hmakes
    have hrecordable : other.IsRecordable :=
      hother ▸ isRecordable_of_update (hv.recordable base hmakes.keeps) hline
        (hfolder.imp_left And.right)
    have hname : other.name = base.name := by rw [hother, KnowledgeBaseChange.applied]
    have hsubfolder : other.subfolder = folder := by rw [hother]
    obtain ⟨hisname, text, hget, -⟩ := hmakes.keeps
    have hclean := hv.tree.file_clean _ (Vault.hasFile_of_get? hget)
    rw [← hname] at hclean hisname hfree
    rw [← hsubfolder] at hfree
    refine hmiddle.records hclean hisname hrecordable hfree hrecords ?_
    intro path hpath
    rw [hpath]
    exact not_isRecordPlace_indexPlace root
  · rintro failure _ after (rfl | ⟨base, folder, -, hmakes⟩)
    · exact hv
    · exact (hroom hmakes).1

-- Whatever is done, and whether it succeeds or not, the knowledge bases keep to
-- subfolders of their own.
theorem ends_exclusive (hv : vault.Exclusive root) (hclock : ShowsPlainYears clock)
    {operation : Operation α} (hline : operation.AsksOneLine) :
    Ends ((inMemory .allowing clock root).carryOut operation) state vault
      (fun _ _ after => after.Exclusive root) fun _ _ after => after.Exclusive root := by
  by_cases hkind : operation.WritesRecord
  · cases operation with
    | add wish => exact ends_add_exclusive hroot hne hv hclock hline
    | update name change => exact ends_update_exclusive hroot hne hv hline
    | _ => exact hkind.elim
  · have hindex : ¬IsRecordPlace root (Path.normalize
        (inMemory (.allowing : Policy σ) clock root).indexPath) := by
      rw [indexPath_inMemory hroot hne]
      exact not_isRecordPlace_indexPlace root
    refine (Works.ends_confined Policy.onlyRefuses_allowing (works_confined hroot hne hkind
      (fun name _ => hv.grants) fun _ => hindex)).mono ?_ ?_
    · exact fun _ _ after h => hv.confined h.2 fun _ hp => hp
    · exact fun _ _ after h => hv.confined h fun _ hp => hp

theorem exclusive_carryOutAll (hv : vault.Exclusive root) (hclock : ShowsPlainYears clock)
    (orders : List Order) (hlines : ∀ order ∈ orders, order.2.AsksOneLine) :
    (vaultAfter ((inMemory .allowing clock root).carryOutAll orders) state vault).Exclusive root := by
  induction orders generalizing state vault with
  | nil => exact hv
  | cons order orders ih =>
      obtain ⟨hline, hlines⟩ := List.forall_mem_cons.mp hlines
      rw [carryOutAll, vaultAfter_bind]
      exact ih (ends_exclusive hroot hne hv hclock hline).vaultAfter hlines

-- Whatever was ordered since the vault was empty, a scan finds knowledge bases with
-- names and subfolders of their own, away from the records. Hence no path lies in two
-- of them, or in one and among the records.
theorem scan_exclusive (hclock : ShowsPlainYears clock) (orders : List Order)
    (hlines : ∀ order ∈ orders, order.2.AsksOneLine) (state : σ) :
    let registry := inMemory .allowing clock root
    let later := stateAfter (registry.carryOutAll orders) state Vault.empty
    let reached := vaultAfter (registry.carryOutAll orders) state Vault.empty
    ∃ bases, registry.scan.run later reached = ((.ok bases, later), reached) ∧
      (bases.map KnowledgeBase.name).Nodup ∧
      (∀ base ∈ bases, base.subfolder ≠ "" ∧ Path.normalize base.subfolder = base.subfolder ∧
        Path.hasTraversal base.subfolder = false ∧ Path.overlap base.subfolder root = false) ∧
      (bases.Pairwise fun left right => Path.overlap left.subfolder right.subfolder = false) ∧
      ∀ path, (∀ left ∈ bases, ∀ right ∈ bases, Path.isWithin path left.subfolder = true →
        Path.isWithin path right.subfolder = true → left = right) ∧
        ∀ base ∈ bases, Path.isWithin path base.subfolder = true → Path.isWithin path root = false := by
  intro registry later reached
  have hv : reached.Exclusive root :=
    exclusive_carryOutAll hroot hne (exclusive_empty root) hclock orders hlines
  obtain ⟨bases, hrun, hbases, hnames⟩ :=
    run_scan clock later hv.tree hroot hne
  have hkeeps : ∀ base ∈ bases, reached.Keeps root base := fun base => (hbases base).mp
  refine ⟨bases, hrun, hnames, fun base hb => ?_, hv.pairwise hkeeps hnames, fun path => ⟨?_, ?_⟩⟩
  · have hbase := hv.recordable base (hkeeps base hb)
    exact ⟨hbase.nonempty, hbase.clean.normal, hbase.clean.stays, hv.reserved base (hkeeps base hb)⟩
  · intro left hl right hr hleft hright
    by_contra hne
    have hname : left.name ≠ right.name := fun h => hne ((hkeeps left hl).eq (hkeeps right hr) h)
    have hapart := hv.apart left right (hkeeps left hl) (hkeeps right hr) hname
    rw [Path.overlap_of_isWithin hleft hright] at hapart
    cases hapart
  · intro base hb hw
    rw [Bool.eq_false_iff]
    intro hreserved
    have hapart := hv.reserved base (hkeeps base hb)
    rw [Path.overlap_of_isWithin hw hreserved] at hapart
    cases hapart

end

end

-- Three wishes of which the second collides with the first, and a note.
theorem scan_exclusive_wishes :
    let registry : Registry (Session Unit) :=
      inMemory .allowing (fun _ => (⟨⟨2024, 5, 17⟩, 8, 30, 0, 0⟩, ())) ".kb"
    let orders : List Order := [⟨_, .add ⟨"work", "", "notes/work", ""⟩⟩,
      ⟨_, .add ⟨"home", "", "notes/work/home", ""⟩⟩, ⟨_, .add ⟨"home", "", "notes/home/", ""⟩⟩,
      ⟨_, .createNote "work" "plan" "Begin."⟩]
    let later := stateAfter (registry.carryOutAll orders) () Vault.empty
    let reached := vaultAfter (registry.carryOutAll orders) () Vault.empty
    ∃ bases, registry.scan.run later reached = ((.ok bases, later), reached) ∧
      (bases.map KnowledgeBase.name).Nodup ∧
      (∀ base ∈ bases, base.subfolder ≠ "" ∧ Path.normalize base.subfolder = base.subfolder ∧
        Path.hasTraversal base.subfolder = false ∧ Path.overlap base.subfolder ".kb" = false) ∧
      (bases.Pairwise fun left right => Path.overlap left.subfolder right.subfolder = false) ∧
      ∀ path, (∀ left ∈ bases, ∀ right ∈ bases, Path.isWithin path left.subfolder = true →
        Path.isWithin path right.subfolder = true → left = right) ∧
        ∀ base ∈ bases, Path.isWithin path base.subfolder = true →
          Path.isWithin path ".kb" = false := by
  intro registry orders later reached
  have hlines : ∀ order ∈ orders, order.2.AsksOneLine := by
    simp only [orders, List.forall_mem_cons, Operation.AsksOneLine]
    exact ⟨by decide, by decide, by decide, trivial, fun _ h => nomatch h⟩
  exact scan_exclusive ⟨by decide, by decide⟩ (by decide) (fun _ => ⟨by decide, by decide⟩) orders
    hlines ()

end NoteVault
