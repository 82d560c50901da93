import NoteVault.Proofs.Registry.Recording

namespace NoteVault

open Registry Session

-- A place where a record can be.
def IsRecordPlace (root path : String) : Prop :=
  ∃ name : String, Path.IsName name.toList ∧ path = recordPlace root name

-- The knowledge bases of the vault have subfolders of their own, away from the records.
structure Vault.Apart (vault : Vault) (root : String) : Prop where
  tree : vault.IsTree
  reserved : ∀ base, vault.Keeps root base → Path.overlap base.subfolder root = false
  apart : ∀ base other, vault.Keeps root base → vault.Keeps root other → base.name ≠ other.name →
    Path.overlap base.subfolder other.subfolder = false

section

variable {root path : String}

theorem below_ne_self (folder name : String) : Path.below folder name ≠ folder := by
  intro h
  have hlen := congrArg (fun text : String => text.toList.length) h
  simp only [Path.below, String.toList_append, List.length_append] at hlen
  have hslash : ("/" : String).toList.length = 1 := rfl
  omega

theorem not_isRecordPlace_of_apart {folder : String} (h : Path.overlap folder root = false)
    (hw : Path.isWithin path folder = true) : ¬IsRecordPlace root path := by
  rintro ⟨name, -, rfl⟩
  have hroot : Path.isWithin (recordPlace root name) root = true :=
    Path.isWithin_trans (Path.isWithin_below _ _) (Path.isWithin_below _ _)
  rw [Path.overlap_of_isWithin hw hroot] at h
  cases h

theorem not_isRecordPlace_indexPlace (root : String) : ¬IsRecordPlace root (indexPlace root) := by
  rintro ⟨name, -, h⟩
  have hparent := congrArg Path.parent h
  rw [parent_recordPlace, indexPlace, Path.parent_below (by decide)] at hparent
  exact below_ne_self root name hparent.symm

-- The third name of a path tells constraints from records.
theorem not_isRecordPlace_constraints {name : String} (rest : String)
    (h : Path.segments path = Path.segments (Path.below (Path.below (Path.below root name)
      "folder_constraints") rest)) (hname : Path.IsName name.toList) : ¬IsRecordPlace root path := by
  rintro ⟨other, hother, rfl⟩
  rw [recordPlace] at h
  simp only [Path.segments_below, Path.segments_of_isName hname, Path.segments_of_isName hother,
    List.append_assoc, List.append_cancel_left_eq, List.cons_append, List.nil_append,
    List.cons.injEq] at h
  have hsame := h.2
  rw [Path.segments_of_isName (by decide), Path.segments_of_isName (by decide)] at hsame
  exact absurd (List.cons.inj hsame).1 (by decide)

end

section

variable {root name folder : String} {places : String → Prop} {vault after : Vault}
  {base : KnowledgeBase}

theorem recordPlace_injective {other : String} (hname : Path.IsName name.toList)
    (hother : Path.IsName other.toList) (h : recordPlace root name = recordPlace root other) :
    name = other := by
  have hparent := congrArg Path.parent h
  rw [parent_recordPlace, parent_recordPlace] at hparent
  have hfile := congrArg Path.fileName hparent
  rwa [Path.fileName_below hname, Path.fileName_below hother] at hfile

namespace Vault

-- Work elsewhere leaves all records.
theorem Confined.keeps_iff (h : vault.Confined places after)
    (hplaces : ∀ path, places path → ¬IsRecordPlace root path) (base : KnowledgeBase) :
    after.Keeps root base ↔ vault.Keeps root base := by
  have hfile : Path.IsName base.name.toList →
      after.files.get? (recordPlace root base.name) = vault.files.get? (recordPlace root base.name) :=
    fun hname => h.file _ fun hplace => hplaces _ hplace ⟨base.name, hname, rfl⟩
  constructor
  · rintro ⟨hname, text, hget, hread⟩
    exact ⟨hname, text, (hfile hname).symm.trans hget, hread⟩
  · rintro ⟨hname, text, hget, hread⟩
    exact ⟨hname, text, (hfile hname).trans hget, hread⟩

theorem Free.confined (hfree : vault.Free root name folder) (h : vault.Confined places after)
    (hplaces : ∀ path, places path → ¬IsRecordPlace root path) : after.Free root name folder :=
  ⟨hfree.reserved, fun other ho => hfree.apart other ((h.keeps_iff hplaces other).mp ho)⟩

-- Where knowledge bases keep away from the records, nothing but records lies in the
-- places of records.
theorem grants_of_reserved
    (hreserved : ∀ base, vault.Keeps root base → Path.overlap base.subfolder root = false) :
    vault.Grants root name fun path => ¬IsRecordPlace root path where
  record hname h := h ⟨name, (KnowledgeBase.isName_of_checkName hname).1, rfl⟩
  notes base hb _ _ hw := not_isRecordPlace_of_apart (hreserved base hb) hw
  constraints hname _ :=
    not_isRecordPlace_constraints _ (Path.segments_normalize _)
      (KnowledgeBase.isName_of_checkName hname).1

namespace Apart

theorem confined (hv : vault.Apart root) (h : vault.Confined places after)
    (hplaces : ∀ path, places path → ¬IsRecordPlace root path) : after.Apart root := by
  have hkeeps := h.keeps_iff hplaces
  refine ⟨h.tree hv.tree, fun base hb => ?_, fun base other hb ho => ?_⟩
  · exact hv.reserved base ((hkeeps base).mp hb)
  · exact hv.apart base other ((hkeeps base).mp hb) ((hkeeps other).mp ho)

theorem pairwise (hv : vault.Apart root) {bases : List KnowledgeBase}
    (hkeeps : ∀ base ∈ bases, vault.Keeps root base) (hnames : (bases.map KnowledgeBase.name).Nodup) :
    bases.Pairwise fun left right => Path.overlap left.subfolder right.subfolder = false := by
  rw [List.Nodup, List.pairwise_map] at hnames
  exact hnames.imp_of_mem fun hl hr hne => hv.apart _ _ (hkeeps _ hl) (hkeeps _ hr) hne

-- What a knowledge base has, it may keep.
theorem free (hv : vault.Apart root) (hb : vault.Keeps root base) :
    vault.Free root base.name base.subfolder :=
  ⟨hv.reserved base hb, fun other ho hne => hv.apart base other hb ho hne.symm⟩

theorem free_of_makesRoom (hv : vault.Apart root) (h : vault.MakesRoom root base folder after) :
    vault.Free root base.name folder := by
  rcases h.free with hsame | hfree
  · rw [hsame]
    exact hv.free h.keeps
  · exact hfree

theorem grants (hv : vault.Apart root) :
    vault.Grants root name fun path => ¬IsRecordPlace root path :=
  grants_of_reserved hv.reserved

end Apart

end Vault

end

end NoteVault
