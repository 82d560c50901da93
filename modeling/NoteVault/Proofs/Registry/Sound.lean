import NoteVault.Proofs.Registry.Exclusive
import NoteVault.Proofs.Registry.IndexDocument
import NoteVault.Proofs.Registry.Ledger

namespace NoteVault

open Registry Session

namespace KnowledgeBase

-- A knowledge base whose record says exactly what it is.
structure IsFaithful (base : KnowledgeBase) : Prop extends base.IsRecordable where
  checked : checkName base.name = .ok ()
  description : IsSingleLine base.description
  rules : Text.trimmed base.organizationRules = base.organizationRules
  plain : base.createTime.IsPlain

theorem IsFaithful.ofRecord {base : KnowledgeBase} (h : base.IsFaithful) :
    ofRecord base.name base.record = .ok base := by
  have hfolder : Path.normalize (singleLine base.subfolder) = base.subfolder := by
    rw [singleLine_eq h.line, h.clean.normal]
  rw [ofRecord_record h.time (by rw [hfolder]; exact h.nonempty), hfolder,
    singleLine_eq h.description, h.rules]

end KnowledgeBase

-- A place of a record, or one below it.
def IsInRecord (root path : String) : Prop :=
  ∃ name : String, Path.IsName name.toList ∧ Path.isWithin path (recordPlace root name) = true

-- A place that is neither that of a record nor that of the index.
def IsAside (root path : String) : Prop :=
  ¬IsInRecord root path ∧ path ≠ indexPlace root

section

variable {root name path folder : String}

theorem IsRecordPlace.isInRecord (h : IsRecordPlace root path) : IsInRecord root path := by
  obtain ⟨name, hname, rfl⟩ := h
  exact ⟨name, hname, Path.isWithin_self _⟩

theorem segments_recordPlace (hname : Path.IsName name.toList) :
    Path.segments (recordPlace root name) = Path.segments root ++ [name.toList, recordName.toList] := by
  have hlast : Path.segments recordName = [recordName.toList] := Path.segments_of_isName (by decide)
  rw [recordPlace, Path.segments_below, Path.segments_below, Path.segments_of_isName hname, hlast,
    List.append_assoc]
  rfl

theorem segments_indexPlace (root : String) : Path.segments (indexPlace root) =
    Path.segments root ++ [KnowledgeBase.listName.toList] := by
  rw [indexPlace, Path.segments_below,
    Path.segments_of_isName (show Path.IsName KnowledgeBase.listName.toList by decide)]

theorem not_isInRecord_indexPlace (root : String) : ¬IsInRecord root (indexPlace root) := by
  rintro ⟨name, hname, hw⟩
  have hlen := (Path.segments_prefix_of_isWithin hw).length_le
  rw [segments_recordPlace hname, segments_indexPlace] at hlen
  simp at hlen

-- A folder apart from the records has nothing to do with them or with the index.
theorem isAside_of_apart (h : Path.overlap folder root = false)
    (hw : Path.isWithin path folder = true) : IsAside root path := by
  have hout : Path.isWithin path root ≠ true := by
    intro hroot
    rw [Path.overlap_of_isWithin hw hroot] at h
    cases h
  refine ⟨?_, ?_⟩
  · rintro ⟨name, -, hrecord⟩
    exact hout (Path.isWithin_trans hrecord
      (Path.isWithin_trans (Path.isWithin_below _ _) (Path.isWithin_below _ _)))
  · rintro rfl
    exact hout (Path.isWithin_below _ _)

-- Neither have constraints, although they are kept beside the records.
theorem isAside_constraints (name : String) (rest : List (List Char))
    (h : Path.segments path = Path.segments root ++ name.toList :: "folder_constraints".toList :: rest) :
    IsAside root path := by
  refine ⟨?_, ?_⟩
  · rintro ⟨other, hother, hw⟩
    have hinitial := Path.segments_prefix_of_isWithin hw
    rw [h, segments_recordPlace hother, List.prefix_append_right_inj, List.cons_prefix_cons,
      List.cons_prefix_cons] at hinitial
    exact absurd hinitial.2.1 (by decide)
  · rintro rfl
    rw [segments_indexPlace, List.append_cancel_left_eq] at h
    exact List.cons_ne_nil _ _ (List.cons.inj h).2.symm

end

namespace Vault

-- The knowledge bases that a scan of the vault finds.
def bases (vault : Vault) (root : String) : List KnowledgeBase :=
  (vault.recorded root).mergeSort fun left right => left.name ≤ right.name

def ledger (vault : Vault) (root : String) : Ledger :=
  (vault.bases root).map KnowledgeBase.timeless

-- The knowledge bases of the vault are as their records say, and no other records are
-- in it. Where a record can be, there is no folder.
structure Sound (vault : Vault) (root : String) : Prop extends vault.Exclusive root where
  faithful : ∀ base, vault.Keeps root base → base.IsFaithful
  readable : ∀ name : String, Path.IsName name.toList →
    vault.hasFile (recordPlace root name) = true → ∃ base, vault.Keeps root base ∧ base.name = name
  vacant : ∀ name : String, Path.IsName name.toList → vault.hasFolder (recordPlace root name) = false

variable {vault after : Vault} {root name : String} {places : String → Prop} {base : KnowledgeBase}

theorem IsTree.mem_bases (hv : vault.IsTree) (hne : root ≠ "") :
    base ∈ vault.bases root ↔ vault.Keeps root base := by
  rw [bases, List.mem_mergeSort]
  exact hv.mem_recorded hne

theorem IsTree.byName_bases (hv : vault.IsTree) (hne : root ≠ "") :
    ByName KnowledgeBase.name (vault.bases root) :=
  byName_mergeSort (hv.nodup_recorded hne)

theorem Confined.bases_eq (h : vault.Confined places after) (hv : vault.IsTree) (hne : root ≠ "")
    (hplaces : ∀ path, places path → ¬IsInRecord root path) : after.bases root = vault.bases root := by
  refine ((h.tree hv).byName_bases hne).eq_of_mem_iff (hv.byName_bases hne) fun base => ?_
  rw [(h.tree hv).mem_bases hne, hv.mem_bases hne]
  exact h.keeps_iff (fun path hpath hrecord => hplaces path hpath hrecord.isInRecord) base

-- What a faithful record adds to a vault.
theorem keeps_withFile (hbase : base.IsFaithful) (other : KnowledgeBase) :
    (vault.withFile (recordPlace root base.name) base.record).Keeps root other ↔
      other = base ∨ other.name ≠ base.name ∧ vault.Keeps root other := by
  have hname := (KnowledgeBase.isName_of_checkName hbase.checked).1
  refine ⟨keeps_of_withFile base hname hbase.ofRecord, ?_⟩
  rintro (rfl | ⟨hne, hother, text, hget, hread⟩)
  · exact ⟨hname, _, by rw [get?_withFile, if_pos rfl], hbase.ofRecord⟩
  · refine ⟨hother, text, ?_, hread⟩
    rw [get?_withFile, if_neg fun hplace => hne (recordPlace_injective hother hname hplace), hget]

theorem IsTree.isPut_withFile (hv : vault.IsTree) (hroot : Path.Clean root) (hne : root ≠ "")
    (hbase : base.IsFaithful) : IsPut base (vault.bases root)
      ((vault.withFile (recordPlace root base.name) base.record).bases root) := by
  intro other
  rw [(hv.withFile (clean_recordPlace_of_checkName hroot hne hbase.checked) _).mem_bases hne,
    hv.mem_bases hne]
  exact keeps_withFile hbase other

namespace Sound

theorem confined (hv : vault.Sound root) (h : vault.Confined places after)
    (hplaces : ∀ path, places path → ¬IsInRecord root path) : after.Sound root := by
  have hrecords : ∀ path, places path → ¬IsRecordPlace root path :=
    fun path hpath hrecord => hplaces path hpath hrecord.isInRecord
  have hkeeps := h.keeps_iff hrecords
  refine ⟨hv.toExclusive.confined h hrecords, fun base hb => hv.faithful base ((hkeeps base).mp hb),
    fun name hname hfile => ?_, fun name hname => ?_⟩
  · rw [hasFile, SortedMap.contains, h.file _ fun hplace => hrecords _ hplace ⟨name, hname, rfl⟩] at hfile
    obtain ⟨base, hbase, hsame⟩ := hv.readable name hname hfile
    exact ⟨base, (hkeeps base).mpr hbase, hsame⟩
  · rw [Bool.eq_false_iff]
    intro hfolder
    rcases h.folder _ hfolder with hold | ⟨-, place, hplace, hw⟩
    · rw [hv.vacant name hname] at hold
      cases hold
    · exact hplaces place hplace ⟨name, hname, hw⟩

-- The record of a faithful knowledge base in a free folder may be written.
theorem withFile (hv : vault.Sound root) (hroot : Path.Clean root) (hne : root ≠ "")
    (hbase : base.IsFaithful) (hfree : vault.Free root base.name base.subfolder) :
    (vault.withFile (recordPlace root base.name) base.record).Sound root := by
  have hname := (KnowledgeBase.isName_of_checkName hbase.checked).1
  have hclean := clean_recordPlace_of_checkName hroot hne hbase.checked
  refine ⟨hv.toExclusive.withFile base hclean hname hbase.toIsRecordable hfree, fun other ho => ?_,
    fun other hother hfile => ?_, fun other hother => ?_⟩
  · rcases (keeps_withFile hbase other).mp ho with rfl | ⟨-, ho⟩
    · exact hbase
    · exact hv.faithful other ho
  · by_cases hsame : other = base.name
    · exact ⟨base, (keeps_withFile hbase base).mpr (.inl rfl), hsame.symm⟩
    · have hold := ((hasFile_withFile _ _).mp hfile).resolve_left
        fun hplace => hsame (recordPlace_injective hother hname hplace)
      obtain ⟨found, hfound, rfl⟩ := hv.readable other hother hold
      exact ⟨found, (keeps_withFile hbase found).mpr (.inr ⟨hsame, hfound⟩), rfl⟩
  · rw [Bool.eq_false_iff]
    intro hfolder
    rw [hasFolder_withFile] at hfolder
    rcases mem_ancestors_of_withParents hfolder with hm | hold
    · -- no place of a record lies around another one
      obtain ⟨-, hdiffers, hw⟩ := (Path.mem_ancestors_iff hclean.normal).mp hm
      have hinitial := Path.segments_prefix_of_isWithin hw
      refine hdiffers (Path.eq_of_segments_eq (Path.normalize_of_isWithin hclean.normal hw)
        hclean.normal (hinitial.eq_of_length ?_))
      rw [segments_recordPlace hother, segments_recordPlace hname, List.length_append,
        List.length_append]
      rfl
    · rw [hv.vacant other hother] at hold
      cases hold

theorem named?_eq_some (hv : vault.Sound root) (hne : root ≠ "") (hb : vault.Keeps root base) :
    (vault.ledger root).named? base.name = some base.timeless := by
  have hmem := (hv.tree.mem_bases hne).mpr hb
  rw [ledger, named?_timeless]
  cases hfound : (vault.bases root).find? fun other => other.name == base.name with
  | none => exact absurd (beq_self_eq_true base.name) (List.find?_eq_none.mp hfound base hmem)
  | some other =>
      have hsame : other.name = base.name := by simpa using List.find?_some hfound
      rw [(hv.tree.byName_bases hne).eq_of_name (List.mem_of_find?_eq_some hfound) hmem hsame]
      rfl

theorem named?_eq_none (hv : vault.Sound root) (hne : root ≠ "")
    (h : ∀ base, vault.Keeps root base → base.name ≠ name) : (vault.ledger root).named? name = none := by
  rw [ledger, named?_timeless, Option.map_eq_none_iff, List.find?_eq_none]
  intro base hb
  simpa using h base ((hv.tree.mem_bases hne).mp hb)

theorem isSome_named? (hv : vault.Sound root) (hne : root ≠ "")
    (hname : Path.IsName name.toList) :
    ((vault.ledger root).named? name).isSome = vault.hasFile (recordPlace root name) := by
  cases hfile : vault.hasFile (recordPlace root name) with
  | true =>
      obtain ⟨base, hbase, rfl⟩ := hv.readable name hname hfile
      rw [hv.named?_eq_some hne hbase, Option.isSome_some]
  | false =>
      rw [hv.named?_eq_none hne, Option.isSome_none]
      rintro base ⟨-, text, hget, -⟩ rfl
      rw [hasFile_of_get? hget] at hfile
      cases hfile

-- Work for a knowledge base leaves the records and the index alone.
theorem grants (hv : vault.Sound root) : vault.Grants root name (IsAside root) where
  record hname h := h.1 ⟨name, (KnowledgeBase.isName_of_checkName hname).1, Path.isWithin_self _⟩
  notes base hb _ _ hw := isAside_of_apart (hv.reserved base hb) hw
  constraints hname file := by
    have hisname := (KnowledgeBase.isName_of_checkName hname).1
    refine isAside_constraints name (Path.segments file) ?_
    simp only [Path.segments_normalize, Path.segments_below, Path.segments_of_isName hisname,
      Path.segments_of_isName (show Path.IsName "folder_constraints".toList by decide),
      List.append_assoc, List.cons_append, List.nil_append]

end Sound

theorem sound_empty (root : String) : Vault.empty.Sound root := by
  refine ⟨exclusive_empty root, ?_, ?_, fun _ _ => rfl⟩
  · rintro base ⟨-, text, hget, -⟩
    cases hget
  · intro name _ hfile
    cases hfile

end Vault

end NoteVault
