import NoteVault.Proofs.Path.Child
import NoteVault.Proofs.Storage.Tree

namespace NoteVault

theorem SortedMap.nodup_keys {ν : Type} (map : SortedMap ν) : map.keys.Nodup := by
  refine map.keys_sorted.imp fun hlt hsame => ?_
  rw [hsame] at hlt
  exact String.lt_irrefl _ hlt

namespace Path

-- What lies strictly below a folder has its parent in it.
theorem isWithin_parent_iff {path folder : String} (hp : normalize path = path) (hf : folder ≠ "") :
    isWithin (parent path) folder = true ↔ isWithin path folder = true ∧ path ≠ folder := by
  constructor
  · intro hw
    have hparent := ne_empty_of_isWithin hw hf
    have hup := isWithin_parent_self hparent
    refine ⟨isWithin_trans hup hw, ?_⟩
    rintro rfl
    obtain ⟨hsplit, -⟩ := eq_below_of_parent hp hparent
    rw [isWithin_antisymm hw hup] at hsplit
    exact below_ne_self _ _ hsplit.symm
  · rintro ⟨hw, hne⟩
    exact isWithin_parent hp hne.symm hw hf

theorem length_segments_of_parent {path : String} (hp : normalize path = path) (hne : path ≠ "") :
    (segments path).length = (segments (parent path)).length + 1 := by
  have hlong := List.length_pos_iff.mpr (segments_ne_nil hp hne)
  rw [segments_parent hp, List.length_dropLast]
  omega

end Path

namespace Vault

variable {vault : Vault} {path : String} {folders : List String} {levels : Nat}

-- What is directly in one of several folders.
def childrenOfAll {ν : Type} (folders : List String) (map : SortedMap ν) : List String :=
  folders.flatMap fun folder => childrenOf folder map

-- The notes in folders, in the folders in them, and so on for so many levels.
def notesOnLevels (vault : Vault) : Nat → List String → List String
  | 0, _ => []
  | levels + 1, folders =>
    (childrenOfAll folders vault.files).filter Path.isNote ++
      vault.notesOnLevels levels (childrenOfAll folders vault.folders)

@[simp] theorem mem_childrenOfAll {ν : Type} {map : SortedMap ν} :
    path ∈ childrenOfAll folders map ↔ map.contains path = true ∧ Path.parent path ∈ folders := by
  simp only [childrenOfAll, childrenOf, List.mem_flatMap, List.mem_filter, beq_iff_eq,
    SortedMap.mem_keys]
  constructor
  · rintro ⟨folder, hf, hin, rfl⟩
    exact ⟨hin, hf⟩
  · rintro ⟨hin, hf⟩
    exact ⟨_, hf, hin, rfl⟩

-- Each is there once, since it has one parent.
theorem nodup_childrenOfAll {ν : Type} (map : SortedMap ν) (h : folders.Nodup) :
    (childrenOfAll folders map).Nodup := by
  refine List.nodup_flatMap.mpr ⟨fun folder _ => ?_, h.imp fun hne => ?_⟩
  · exact map.nodup_keys.filter _
  · intro path hl hr
    simp only [childrenOf, List.mem_filter, beq_iff_eq] at hl hr
    exact hne (hl.2.symm.trans hr.2)

theorem notesOnLevels_nil (vault : Vault) (levels : Nat) : vault.notesOnLevels levels [] = [] := by
  induction levels with
  | zero => rfl
  | succ levels ih => exact ih

namespace IsTree

variable (hv : vault.IsTree)
include hv

-- The next folders are not the top folder, and one name longer.
theorem empty_notMem_childrenOfAll : "" ∉ childrenOfAll folders vault.folders :=
  fun h => (hv.folder_clean "" (mem_childrenOfAll.mp h).1).2 rfl

theorem length_segments_of_child {folder : String} (h : folder ∈ childrenOfAll folders vault.folders) :
    (Path.segments folder).length = (Path.segments (Path.parent folder)).length + 1 := by
  obtain ⟨hclean, hne⟩ := hv.folder_clean folder (mem_childrenOfAll.mp h).1
  exact Path.length_segments_of_parent hclean.normal hne

-- A document has the folder around it, and all around that.
theorem hasFolder_of_file {folder : String} (hfile : vault.hasFile path = true)
    (hw : Path.isWithin (Path.parent path) folder = true) (hne : folder ≠ "") :
    vault.hasFolder (Path.parent path) = true ∧ vault.hasFolder folder = true := by
  have hparent := (hv.file_parent path hfile).resolve_left (Path.ne_empty_of_isWithin hw hne)
  exact ⟨hparent, hv.hasFolder_of_isWithin hparent hw hne⟩

-- On the way down to a folder that is there, the next one is there too.
theorem exists_child {folder outer : String} (hthere : vault.hasFolder folder = true)
    (houter : outer ∈ folders) (hw : Path.isWithin folder outer = true) (hne : folder ≠ outer) :
    ∃ next ∈ childrenOfAll folders vault.folders, Path.isWithin folder next = true := by
  have hnormal := (hv.folder_clean folder hthere).1.normal
  have houterNormal := Path.normalize_of_isWithin hnormal hw
  obtain ⟨rest, hrest⟩ := Path.segments_prefix_of_isWithin hw
  cases rest with
  | nil =>
      rw [List.append_nil] at hrest
      exact absurd (Path.eq_of_segments_eq hnormal houterNormal hrest.symm) hne
  | cons name rest =>
      obtain ⟨-, hchild, hparent, -, hdown⟩ :=
        Path.child_of_segments hnormal houterNormal hrest.symm
      have hnext := hv.hasFolder_of_isWithin hthere hdown hchild
      exact ⟨_, mem_childrenOfAll.mpr ⟨hnext, hparent.symm ▸ houter⟩, hdown⟩

section

variable (hfolders : "" ∉ folders)
include hfolders

-- A walk goes down, so that it finds only what lies in the folders it starts from.
theorem of_mem_notesOnLevels (h : path ∈ vault.notesOnLevels levels folders) :
    vault.hasFile path = true ∧ Path.isNote path = true ∧
      ∃ folder ∈ folders, Path.isWithin (Path.parent path) folder = true := by
  induction levels generalizing folders with
  | zero => cases h
  | succ levels ih =>
      rw [notesOnLevels, List.mem_append, List.mem_filter, mem_childrenOfAll] at h
      rcases h with ⟨⟨hfile, hparent⟩, hnote⟩ | h
      · exact ⟨hfile, hnote, _, hparent, Path.isWithin_self _⟩
      · obtain ⟨hfile, hnote, folder, hfolder, hw⟩ := ih hv.empty_notMem_childrenOfAll h
        have hparent := (mem_childrenOfAll.mp hfolder).2
        have hup := Path.isWithin_parent_self (ne_of_mem_of_not_mem hparent hfolders)
        exact ⟨hfile, hnote, _, hparent, Path.isWithin_trans hw hup⟩

-- With levels for all folders that there are, it misses nothing.
theorem mem_notesOnLevels
    (hlevels : ∀ folder ∈ folders, vault.folders.size < levels + (Path.segments folder).length)
    (hfile : vault.hasFile path = true) (hnote : Path.isNote path = true) {folder : String}
    (hfolder : folder ∈ folders) (hw : Path.isWithin (Path.parent path) folder = true) :
    path ∈ vault.notesOnLevels levels folders := by
  induction levels generalizing folders folder with
  | zero =>
      -- a folder as long as all levels together is longer than any that is there
      have hthere := hv.hasFolder_of_file hfile hw (ne_of_mem_of_not_mem hfolder hfolders)
      have hlong := hv.length_segments_le hthere.2
      have hshort := hlevels folder hfolder
      omega
  | succ levels ih =>
      rw [notesOnLevels, List.mem_append, List.mem_filter, mem_childrenOfAll]
      by_cases hsame : Path.parent path = folder
      · exact .inl ⟨⟨hfile, hsame ▸ hfolder⟩, hnote⟩
      · have hthere := hv.hasFolder_of_file hfile hw (ne_of_mem_of_not_mem hfolder hfolders)
        obtain ⟨next, hnext, hdown⟩ := hv.exists_child hthere.1 hfolder hw hsame
        refine .inr (ih hv.empty_notMem_childrenOfAll (fun other ho => ?_) hnext hdown)
        have hlonger := hv.length_segments_of_child ho
        have hshort := hlevels _ (mem_childrenOfAll.mp ho).2
        omega

-- From folders on one level, a walk comes upon every note once.
theorem nodup_notesOnLevels {length : Nat} (hnodup : folders.Nodup)
    (hlength : ∀ folder ∈ folders, (Path.segments folder).length = length) :
    (vault.notesOnLevels levels folders).Nodup := by
  induction levels generalizing folders length with
  | zero => exact List.nodup_nil
  | succ levels ih =>
      have hdeeper : ∀ folder ∈ childrenOfAll folders vault.folders,
          (Path.segments folder).length = length + 1 := by
        intro folder hf
        rw [hv.length_segments_of_child hf, hlength _ (mem_childrenOfAll.mp hf).2]
      refine List.Nodup.append ((nodup_childrenOfAll _ hnodup).filter _)
        (ih hv.empty_notMem_childrenOfAll (nodup_childrenOfAll _ hnodup) hdeeper) ?_
      intro path hhere hbelow
      obtain ⟨-, -, folder, hfolder, hw⟩ :=
        hv.of_mem_notesOnLevels hv.empty_notMem_childrenOfAll hbelow
      have hparent := (mem_childrenOfAll.mp (List.mem_of_mem_filter hhere)).2
      have hlong := (Path.segments_prefix_of_isWithin hw).length_le
      rw [hdeeper folder hfolder, hlength _ hparent] at hlong
      omega

end

end IsTree

end Vault

end NoteVault
