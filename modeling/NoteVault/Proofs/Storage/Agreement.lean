import Mathlib.Data.List.Sort
import NoteVault.Proofs.Storage.Confined

namespace NoteVault

-- Places that hold with a folder all that is in it. The top folder is not one of them.
structure IsRegion (region : String → Prop) : Prop where
  inner : ∀ folder path, region folder → Path.isWithin path folder = true → region path
  proper : ¬region ""

-- Two vaults that are the same in a region.
structure Vault.Agree (region : String → Prop) (left right : Vault) : Prop where
  treeLeft : left.IsTree
  treeRight : right.IsTree
  file : ∀ path, region path → right.files.get? path = left.files.get? path
  folder : ∀ path, region path → right.hasFolder path = left.hasFolder path

namespace Vault

variable {region places : String → Prop} {left right vault : Vault} {path folder : String}

-- The children of a folder are the same if no map has one that the other lacks.
theorem childrenOf_congr {ν μ : Type} {left : SortedMap ν} {right : SortedMap μ}
    (h : ∀ path, right.contains path = true ∨ left.contains path = true → Path.parent path = folder →
      right.contains path = left.contains path) :
    childrenOf folder right = childrenOf folder left := by
  have hirrefl : Std.Irrefl (α := String) (· < ·) := ⟨String.lt_irrefl⟩
  have hantisymm : Std.Antisymm (α := String) (· < ·) :=
    ⟨fun left right hlt hgt => (String.lt_irrefl left (String.lt_trans hlt hgt)).elim⟩
  refine List.Pairwise.eq_of_mem_iff (r := (· < ·)) (right.keys_sorted.filter _)
    (left.keys_sorted.filter _) fun path => ?_
  simp only [childrenOf, List.mem_filter, SortedMap.mem_keys, beq_iff_eq]
  constructor
  · rintro ⟨hm, hp⟩
    exact ⟨h path (.inl hm) hp ▸ hm, hp⟩
  · rintro ⟨hm, hp⟩
    exact ⟨(h path (.inr hm) hp).trans hm, hp⟩

theorem region_of_parent (hregion : IsRegion region) (hfolder : region (Path.parent path)) :
    region path := by
  refine hregion.inner _ path hfolder (Path.isWithin_parent_self fun hempty => ?_)
  exact hregion.proper (hempty ▸ hfolder)

namespace Agree

-- Changes elsewhere leave a region as it is.
theorem of_confined (hregion : IsRegion region) (hv : left.IsTree) (h : left.Confined places right)
    (hout : ∀ path, places path → ¬region path) : Agree region left right := by
  refine ⟨hv, h.tree hv, fun path hp => h.file path fun hplace => hout path hplace hp, fun path hp => ?_⟩
  rw [Bool.eq_iff_iff]
  refine ⟨fun hf => ?_, h.kept path⟩
  rcases h.folder path hf with hf | ⟨-, place, hplace, hw⟩
  · exact hf
  · exact (hout place hplace (hregion.inner path place hp hw)).elim

variable (h : Agree region left right)
include h

theorem hasFile (hp : region path) : right.hasFile path = left.hasFile path := by
  simp only [Vault.hasFile, SortedMap.contains, h.file path hp]

theorem withFile (hclean : Path.Clean path) (text : String) :
    Agree region (left.withFile path text) (right.withFile path text) := by
  refine ⟨h.treeLeft.withFile hclean text, h.treeRight.withFile hclean text, fun other hp => ?_,
    fun folder hp => ?_⟩
  · rw [get?_withFile, get?_withFile, h.file other hp]
  · rw [hasFolder_withFile, hasFolder_withFile, Bool.eq_iff_iff,
      h.treeLeft.hasFolder_withParents hclean.normal, h.treeRight.hasFolder_withParents hclean.normal,
      h.folder folder hp]

theorem withoutFile (path : String) : Agree region (left.withoutFile path) (right.withoutFile path) := by
  refine ⟨h.treeLeft.withoutFile, h.treeRight.withoutFile, fun other hp => ?_, h.folder⟩
  rw [get?_withoutFile, get?_withoutFile, h.file other hp]

theorem withFolder (hclean : Path.Clean path) (hne : path ≠ "") :
    Agree region ((left.withParents path).withFolder path)
      ((right.withParents path).withFolder path) := by
  refine ⟨h.treeLeft.withFolder hclean hne, h.treeRight.withFolder hclean hne, fun other hp => ?_,
    fun folder hp => ?_⟩
  · simp only [files_withFolder, files_withParents]
    exact h.file other hp
  · rw [Bool.eq_iff_iff, hasFolder_withFolder, hasFolder_withFolder,
      h.treeLeft.hasFolder_withParents hclean.normal, h.treeRight.hasFolder_withParents hclean.normal,
      h.folder folder hp]

theorem listing (hregion : IsRegion region) (hp : region folder) :
    right.listing folder = left.listing folder := by
  have hin : ∀ path, Path.parent path = folder → region path := fun path hparent =>
    region_of_parent hregion (hparent ▸ hp)
  have hfiles : childrenOf folder right.files = childrenOf folder left.files :=
    childrenOf_congr fun path _ hparent => h.hasFile (hin path hparent)
  have hfolders : childrenOf folder right.folders = childrenOf folder left.folders :=
    childrenOf_congr fun path _ hparent => h.folder path (hin path hparent)
  rw [Vault.listing, Vault.listing, hfiles, hfolders]

theorem answer (hregion : IsRegion region) {α : Type} {call : Call α}
    (hpaths : ∀ path ∈ call.paths, region path ∧ Path.Clean path) :
    (right.answer call).1 = (left.answer call).1 ∧
      Agree region (left.answer call).2 (right.answer call).2 := by
  have hsingle : ∀ {path : String}, call.paths = [path] → region path ∧ Path.Clean path :=
    fun heq => hpaths _ (heq ▸ List.mem_singleton_self _)
  cases call with
  | read path =>
      simp only [Vault.answer, h.file path (hsingle rfl).1]
      split
      · exact ⟨rfl, h⟩
      · exact ⟨rfl, h⟩
  | write path text mode =>
      obtain ⟨hp, hclean⟩ := hsingle rfl
      simp only [Vault.answer, h.hasFile hp]
      split
      · exact ⟨rfl, h⟩
      · split
        · exact ⟨rfl, h⟩
        · exact ⟨rfl, h.withFile hclean text⟩
  | delete path =>
      simp only [Vault.answer, h.hasFile (hsingle rfl).1]
      split
      · exact ⟨rfl, h.withoutFile path⟩
      · exact ⟨rfl, h⟩
  | rename source target =>
      have hsource := hpaths source (by simp [Call.paths])
      have htarget := hpaths target (by simp [Call.paths])
      simp only [Vault.answer, h.hasFile htarget.1, h.file source hsource.1]
      split
      · exact ⟨rfl, h⟩
      · split
        · exact ⟨rfl, (h.withoutFile source).withFile htarget.2 _⟩
        · exact ⟨rfl, h⟩
  | createFolder path =>
      simp only [Vault.answer]
      split
      · exact ⟨rfl, h⟩
      · rename_i hne
        exact ⟨rfl, h.withFolder (hsingle rfl).2 (by simpa using hne)⟩
  | list path =>
      obtain ⟨hp, -⟩ := hsingle rfl
      simp only [Vault.answer, h.folder path hp, h.listing hregion hp]
      split
      · exact ⟨rfl, h⟩
      · exact ⟨rfl, h⟩
  | isPresent path =>
      obtain ⟨hp, -⟩ := hsingle rfl
      simp only [Vault.answer, h.hasFile hp, h.folder path hp]
      exact ⟨trivial, h⟩

-- A call on paths in the region cannot tell the vaults apart.
theorem perform (hregion : IsRegion region) {α : Type} {call : Call α}
    (hpaths : ∀ path ∈ call.paths, region (Path.normalize path)) :
    (right.perform call).1 = (left.perform call).1 ∧
      Agree region (left.perform call).2 (right.perform call).2 := by
  rcases call.normal_cases with ⟨fault, hn⟩ | ⟨hclean, hn⟩
  · rw [perform_of_climbs hn, perform_of_climbs hn]
    exact ⟨rfl, h⟩
  · rw [perform_of_normal hn, perform_of_normal hn]
    refine h.answer hregion fun path hp => ?_
    rw [Call.paths_normalized] at hp
    obtain ⟨raw, hraw, rfl⟩ := List.mem_map.mp hp
    exact ⟨hpaths raw hraw, hclean raw hraw⟩

end Agree

end Vault

end NoteVault
