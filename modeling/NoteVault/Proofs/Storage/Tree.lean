import Mathlib.Data.List.Nodup
import NoteVault.Proofs.Path.Containment

namespace NoteVault

namespace SortedMap

variable {ν : Type}

theorem contains_insert (map : SortedMap ν) (key other : String) (value : ν) :
    (map.insert key value).contains other = true ↔ other = key ∨ map.contains other = true := by
  simp only [contains, get?_insert]
  split
  · rename_i h; simp [h]
  · rename_i h; simp [h]

theorem contains_erase (map : SortedMap ν) (key other : String) :
    (map.erase key).contains other = true ↔ other ≠ key ∧ map.contains other = true := by
  simp only [contains, get?_erase]
  split
  · rename_i h; simp [h]
  · rename_i h; simp [h]

theorem mem_keys (map : SortedMap ν) (key : String) : key ∈ map.keys ↔ map.contains key = true := by
  simp only [keys, Keyed.keys, contains, get?]
  induction map.entries with
  | nil => simp
  | cons entry rest ih =>
      simp only [List.map_cons, List.mem_cons, Keyed.get?]
      split
      · rename_i h
        simp [h]
      · rename_i h
        rw [ih]
        exact or_iff_right fun he => h he.symm

theorem keys_sorted (map : SortedMap ν) : map.keys.Pairwise (· < ·) :=
  List.pairwise_map.mpr map.sorted

end SortedMap

namespace Vault

variable {vault : Vault} {path folder : String}

-- What calls make of a vault: every path in it is clean, and the folders around
-- it are there.
structure IsTree (vault : Vault) : Prop where
  file_clean : ∀ path, vault.hasFile path = true → Path.Clean path
  folder_clean : ∀ path, vault.hasFolder path = true → Path.Clean path ∧ path ≠ ""
  file_parent : ∀ path, vault.hasFile path = true →
    Path.parent path = "" ∨ vault.hasFolder (Path.parent path) = true
  folder_parent : ∀ path, vault.hasFolder path = true →
    Path.parent path = "" ∨ vault.hasFolder (Path.parent path) = true

inductive Reachable : Vault → Prop
  | empty : Reachable Vault.empty
  | call {α : Type} {vault : Vault} (call : Call α) (before : Reachable vault) :
      Reachable (vault.perform call).2

@[simp] theorem files_withFolder : (vault.withFolder path).files = vault.files := rfl

@[simp] theorem hasFile_withFolder (other : String) :
    (vault.withFolder path).hasFile other = vault.hasFile other := rfl

theorem hasFolder_withFolder :
    (vault.withFolder path).hasFolder folder = true ↔
      folder = path ∨ vault.hasFolder folder = true :=
  SortedMap.contains_insert vault.folders path folder ()

theorem files_foldl_withFolder (folders : List String) :
    (folders.foldl withFolder vault).files = vault.files := by
  induction folders generalizing vault with
  | nil => rfl
  | cons first rest ih => exact ih

theorem hasFolder_foldl_withFolder (folders : List String) :
    (folders.foldl withFolder vault).hasFolder folder = true ↔
      folder ∈ folders ∨ vault.hasFolder folder = true := by
  induction folders generalizing vault with
  | nil => simp
  | cons first rest ih =>
      rw [List.foldl_cons, ih, hasFolder_withFolder, List.mem_cons, or_left_comm, or_assoc]

@[simp] theorem files_withParents : (vault.withParents path).files = vault.files :=
  files_foldl_withFolder _

theorem hasFolder_withParents_of (path : String) (h : vault.hasFolder folder = true) :
    (vault.withParents path).hasFolder folder = true :=
  (hasFolder_foldl_withFolder _).mpr (.inr h)

theorem mem_ancestors_of_withParents (h : (vault.withParents path).hasFolder folder = true) :
    folder ∈ Path.ancestors path ∨ vault.hasFolder folder = true :=
  ((hasFolder_foldl_withFolder _).mp h).imp_left fun hm => (List.takeWhile_sublist _).subset hm

theorem get?_withFile (text other : String) :
    (vault.withFile path text).files.get? other =
      if other = path then some text else vault.files.get? other := by
  simp [withFile, SortedMap.get?_insert]

theorem get?_withoutFile (other : String) :
    (vault.withoutFile path).files.get? other =
      if other = path then none else vault.files.get? other :=
  SortedMap.get?_erase vault.files path other

@[simp] theorem hasFolder_withFile (text : String) :
    (vault.withFile path text).hasFolder folder = (vault.withParents path).hasFolder folder := by
  simp only [hasFolder, withFile]

@[simp] theorem hasFolder_withoutFile :
    (vault.withoutFile path).hasFolder folder = vault.hasFolder folder := rfl

theorem hasFile_withFile (text other : String) :
    (vault.withFile path text).hasFile other = true ↔ other = path ∨ vault.hasFile other = true := by
  simpa [hasFile, withFile] using SortedMap.contains_insert vault.files path other text

theorem hasFile_withoutFile (other : String) :
    (vault.withoutFile path).hasFile other = true ↔ other ≠ path ∧ vault.hasFile other = true :=
  SortedMap.contains_erase vault.files path other

theorem hasFile_of_get? {text : String} (h : vault.files.get? path = some text) :
    vault.hasFile path = true := by
  simp [hasFile, SortedMap.contains, h]

theorem hasFile_eq_false_iff : vault.hasFile path = false ↔ vault.files.get? path = none := by
  simp [hasFile, SortedMap.contains]

-- In a tree the folders around a folder are there, however far away.
theorem IsTree.hasFolder_of_isWithin (hv : vault.IsTree) (hp : vault.hasFolder path = true)
    (hw : Path.isWithin path folder = true) (hf : folder ≠ "") :
    vault.hasFolder folder = true := by
  obtain ⟨count, hcount⟩ : ∃ count, (Path.segments path).length ≤ count := ⟨_, le_refl _⟩
  induction count generalizing path with
  | zero =>
      have hclean := hv.folder_clean path hp
      have hnil := List.length_eq_zero_iff.mp (Nat.le_zero.mp hcount)
      exact absurd ((Path.segments_eq_nil_iff hclean.1.normal).mp hnil) hclean.2
  | succ count ih =>
      obtain ⟨hclean, hne⟩ := hv.folder_clean path hp
      by_cases hsame : folder = path
      · rwa [hsame]
      have hparent := Path.isWithin_parent hclean.normal hsame hw hf
      rcases hv.folder_parent path hp with hempty | hpresent
      · exact absurd hempty (Path.ne_empty_of_isWithin hparent hf)
      · refine ih hpresent hparent ?_
        rw [Path.segments_parent hclean.normal, List.length_dropLast]
        omega

-- A folder has no more names in its path than there are folders.
theorem IsTree.length_segments_le (hv : vault.IsTree) (hp : vault.hasFolder path = true) :
    (Path.segments path).length ≤ vault.folders.size := by
  have hname : ∀ count, ∀ part ∈ (Path.segments path).take count, Path.IsName part :=
    fun count part hm => Path.isName_of_mem_segments (List.mem_of_mem_take hm)
  have hsegments : ∀ count, Path.segments (Path.ofParts ((Path.segments path).take count)) =
      (Path.segments path).take count := fun count => Path.segments_ofParts (hname count)
  let around := (List.range (Path.segments path).length).map fun count =>
    Path.ofParts ((Path.segments path).take (count + 1))
  have hdistinct : around.Nodup := by
    refine List.Nodup.map_on (fun left hl right hr heq => ?_) List.nodup_range
    have hlen := congrArg (fun folder => (Path.segments folder).length) heq
    simp only [hsegments, List.length_take] at hlen
    rw [List.mem_range] at hl hr
    omega
  have hfolders : around ⊆ vault.folders.keys := by
    intro folder hm
    obtain ⟨count, hcount, rfl⟩ := List.mem_map.mp hm
    have hne : Path.ofParts ((Path.segments path).take (count + 1)) ≠ "" := by
      intro hempty
      have hlen := congrArg (fun folder => (Path.segments folder).length) hempty
      simp only [hsegments, List.length_take, Path.segments_empty, List.length_nil] at hlen
      rw [List.mem_range] at hcount
      omega
    have hnormal := Path.normalize_ofParts (hname (count + 1))
    refine (SortedMap.mem_keys _ _).mpr (hv.hasFolder_of_isWithin hp ?_ hne)
    refine Path.isWithin_of_segments_prefix (hv.folder_clean path hp).1.normal hnormal hne ?_
    rw [hsegments]
    exact List.take_prefix _ _
  have hlength := hdistinct.length_le_of_subset hfolders
  simpa [around, SortedMap.keys, Keyed.keys, SortedMap.size] using hlength

theorem IsTree.hasFolder_withParents (hv : vault.IsTree) (hp : Path.normalize path = path) :
    (vault.withParents path).hasFolder folder = true ↔
      folder ∈ Path.ancestors path ∨ vault.hasFolder folder = true := by
  refine ⟨mem_ancestors_of_withParents, ?_⟩
  rintro (hm | hf)
  · obtain ⟨count, hcount⟩ : ∃ count, (Path.segments path).length ≤ count := ⟨_, le_refl _⟩
    -- The first folder that is there ends the way up, and it has all others above it.
    suffices hsplit : folder ∈ (Path.ancestors path).takeWhile (fun other => !vault.hasFolder other) ∨
        vault.hasFolder folder = true from (hasFolder_foldl_withFolder _).mpr hsplit
    induction count generalizing path with
    | zero =>
        have hnil := List.length_eq_zero_iff.mp (Nat.le_zero.mp hcount)
        rw [(Path.segments_eq_nil_iff hp).mp hnil] at hm
        simp [Path.ancestors, Path.parts, Text.splitOn, Path.ofParts, Text.joinWith] at hm
    | succ count ih =>
        have hnorm := Path.normalize_parent hp
        rw [Path.ancestors_eq hp] at hm ⊢
        split at hm
        · cases hm
        · rename_i hempty
          rw [if_neg hempty]
          by_cases hpresent : vault.hasFolder (Path.parent path) = true
          · right
            rcases List.mem_cons.mp hm with rfl | hm
            · exact hpresent
            · obtain ⟨hne, -, hw⟩ := (Path.mem_ancestors_iff hnorm).mp hm
              exact hv.hasFolder_of_isWithin hpresent hw hne
          · simp only [List.takeWhile_cons, hpresent, Bool.not_false, ite_true, List.mem_cons]
            rcases List.mem_cons.mp hm with rfl | hm
            · exact .inl (.inl rfl)
            · have hlen : (Path.segments (Path.parent path)).length ≤ count := by
                rw [Path.segments_parent hp, List.length_dropLast]
                omega
              exact (ih hnorm hm hlen).imp_left .inr
  · exact hasFolder_withParents_of path hf

theorem IsTree.withParents (hv : vault.IsTree) (hp : Path.Clean path) :
    (vault.withParents path).IsTree := by
  have around : ∀ folder, Path.isWithin path folder = true → folder ≠ path → folder ≠ "" →
      (vault.withParents path).hasFolder folder = true := fun folder hw hne hf =>
    (hv.hasFolder_withParents hp.normal).mpr
      (.inl ((Path.mem_ancestors_iff hp.normal).mpr ⟨hf, hne, hw⟩))
  constructor
  · exact fun other hf => hv.file_clean other (by simpa [hasFile] using hf)
  · intro folder hf
    rcases mem_ancestors_of_withParents hf with hm | hm
    · obtain ⟨hne, -, hw⟩ := (Path.mem_ancestors_iff hp.normal).mp hm
      exact ⟨hp.of_isWithin hw, hne⟩
    · exact hv.folder_clean folder hm
  · intro other hf
    exact (hv.file_parent other (by simpa [hasFile] using hf)).imp_right (hasFolder_withParents_of path)
  · intro folder hf
    rcases mem_ancestors_of_withParents hf with hm | hm
    · obtain ⟨-, hne, hw⟩ := (Path.mem_ancestors_iff hp.normal).mp hm
      by_cases hempty : Path.parent folder = ""
      · exact .inl hempty
      · have hup := Path.isWithin_parent_self hempty
        refine .inr (around _ (Path.isWithin_trans hw hup) ?_ hempty)
        intro he
        exact hne (Path.isWithin_antisymm hw (he ▸ hup)).symm
    · exact (hv.folder_parent folder hm).imp_right (hasFolder_withParents_of path)

theorem IsTree.parent_withParents (hv : vault.IsTree) (hp : Path.Clean path) :
    Path.parent path = "" ∨ (vault.withParents path).hasFolder (Path.parent path) = true := by
  by_cases hempty : Path.parent path = ""
  · exact .inl hempty
  · refine .inr ((hv.hasFolder_withParents hp.normal).mpr (.inl ?_))
    rw [Path.ancestors_eq hp.normal, if_neg hempty]
    exact List.mem_cons_self

theorem IsTree.withFile (hv : vault.IsTree) (hp : Path.Clean path) (text : String) :
    (vault.withFile path text).IsTree := by
  have hw := hv.withParents hp
  constructor
  · intro other hf
    rcases (hasFile_withFile text other).mp hf with rfl | hf
    · exact hp
    · exact hv.file_clean other hf
  · intro folder hf
    rw [hasFolder_withFile] at hf
    exact hw.folder_clean folder hf
  · intro other hf
    rw [hasFolder_withFile]
    rcases (hasFile_withFile text other).mp hf with rfl | hf
    · exact hv.parent_withParents hp
    · exact (hv.file_parent other hf).imp_right (hasFolder_withParents_of path)
  · intro folder hf
    rw [hasFolder_withFile] at hf ⊢
    exact hw.folder_parent folder hf

theorem IsTree.withoutFile (hv : vault.IsTree) : (vault.withoutFile path).IsTree := by
  constructor
  · exact fun other hf => hv.file_clean other ((hasFile_withoutFile other).mp hf).2
  · simpa only [hasFolder_withoutFile] using hv.folder_clean
  · intro other hf
    rw [hasFolder_withoutFile]
    exact hv.file_parent other ((hasFile_withoutFile other).mp hf).2
  · simpa only [hasFolder_withoutFile] using hv.folder_parent

theorem IsTree.withFolder (hv : vault.IsTree) (hp : Path.Clean path) (hne : path ≠ "") :
    ((vault.withParents path).withFolder path).IsTree := by
  have hw := hv.withParents hp
  constructor
  · intro other hf
    rw [hasFile_withFolder] at hf
    exact hw.file_clean other hf
  · intro folder hf
    rcases hasFolder_withFolder.mp hf with rfl | hf
    · exact ⟨hp, hne⟩
    · exact hw.folder_clean folder hf
  · intro other hf
    rw [hasFile_withFolder] at hf
    rw [hasFolder_withFolder]
    exact (hw.file_parent other hf).imp_right .inr
  · intro folder hf
    rw [hasFolder_withFolder]
    rcases hasFolder_withFolder.mp hf with rfl | hf
    · exact (hv.parent_withParents hp).imp_right .inr
    · exact (hw.folder_parent folder hf).imp_right .inr

theorem isTree_empty : IsTree Vault.empty := by
  have nofile : ∀ path, Vault.empty.hasFile path = false := fun _ => rfl
  have nofolder : ∀ path, Vault.empty.hasFolder path = false := fun _ => rfl
  constructor <;> simp [nofile, nofolder]

end Vault

end NoteVault
