import NoteVault.Proofs.Path.Child
import NoteVault.Proofs.Storage.Roles

namespace NoteVault

-- What a disk that holds the vault has at a path.
def Vault.entry (vault : Vault) (path : String) : Option DiskEntry :=
  match vault.files.get? path with
  | some text => some (.file (some text))
  | none => if path = "" ∨ vault.hasFolder path = true then some .folder else none

-- A vault in memory, and a disk that holds the same documents and folders.
structure Mirrors (vault : Vault) (disk : Disk) : Prop where
  tree : vault.IsTree
  file : ∀ path, disk.files.get? path = (vault.files.get? path).map some
  folder : ∀ path, disk.folders.contains path = vault.hasFolder path

theorem Mirrors.empty : Mirrors Vault.empty Disk.empty :=
  ⟨Vault.isTree_empty, fun _ => rfl, fun _ => rfl⟩

namespace Vault

variable {vault : Vault} {path folder : String}

theorem entry_of_file {text : String} (h : vault.files.get? path = some text) :
    vault.entry path = some (.file (some text)) := by
  simp only [entry, h]

theorem entry_of_folder (hfile : vault.hasFile path = false)
    (hfolder : path = "" ∨ vault.hasFolder path = true) : vault.entry path = some .folder := by
  simp only [entry, hasFile_eq_false_iff.mp hfile, if_pos hfolder]

theorem entry_of_missing (hne : path ≠ "") (hfile : vault.hasFile path = false)
    (hfolder : vault.hasFolder path = false) : vault.entry path = none := by
  simp only [entry, hasFile_eq_false_iff.mp hfile, hne, hfolder, false_or, Bool.false_eq_true,
    if_false]

theorem entry_of_document (hne : path ≠ "") (hfolder : vault.hasFolder path = false) :
    vault.entry path = (vault.files.get? path).map fun text => .file (some text) := by
  simp only [entry, hne, hfolder, false_or, Bool.false_eq_true, if_false]
  cases vault.files.get? path <;> rfl

theorem isSome_entry : (vault.entry path).isSome =
    (path.isEmpty || vault.hasFile path || vault.hasFolder path) := by
  simp only [entry, hasFile, SortedMap.contains]
  cases vault.files.get? path with
  | some text => simp
  | none =>
      by_cases hempty : path = ""
      · simp [hempty]
      · cases hfolder : vault.hasFolder path <;> simp [hempty]

-- Nothing is below a place where no folder is.
theorem IsTree.eq_of_isWithin (hv : vault.IsTree) (hne : folder ≠ "")
    (hfolder : vault.hasFolder folder = false) (hin : Path.isWithin path folder = true) :
    vault.hasFolder path = false ∧ (vault.hasFile path = true → path = folder) := by
  have habove : ∀ inner, vault.hasFolder inner = true → Path.isWithin inner folder = false := by
    intro inner hinner
    refine Bool.eq_false_iff.mpr fun hw => ?_
    rw [hv.hasFolder_of_isWithin hinner hw hne] at hfolder
    exact Bool.false_ne_true hfolder.symm
  constructor
  · refine Bool.eq_false_iff.mpr fun hpath => ?_
    rw [habove path hpath] at hin
    exact Bool.false_ne_true hin
  · intro hfile
    by_contra hother
    have hparent := Path.isWithin_parent (hv.file_clean path hfile).normal (Ne.symm hother) hin hne
    rcases hv.file_parent path hfile with hempty | hpresent
    · exact Path.ne_empty_of_isWithin hparent hne hempty
    · rw [habove _ hpresent] at hparent
      exact Bool.false_ne_true hparent

theorem IsTree.entry_eq_none (hv : vault.IsTree) (hin : Path.isWithin path folder = true)
    (hne : folder ≠ "") (hfile : vault.hasFile folder = false)
    (hfolder : vault.hasFolder folder = false) : vault.entry path = none := by
  obtain ⟨hpath, hsame⟩ := hv.eq_of_isWithin hne hfolder hin
  refine entry_of_missing (Path.ne_empty_of_isWithin hin hne) (Bool.eq_false_iff.mpr fun hf => ?_)
    hpath
  rw [← hsame hf, hf] at hfile
  exact Bool.false_ne_true hfile.symm

end Vault

namespace Mirrors

variable {vault : Vault} {disk : Disk} {path folder : String}

theorem look_eq (h : Mirrors vault disk) (hne : path ≠ "") : disk.look path = vault.entry path := by
  simp only [Disk.look, Vault.entry, h.file, h.folder, hne, false_or]
  cases vault.files.get? path <;> rfl

-- A way down that meets no document before its end ends at what the vault has there.
theorem walk_eq (h : Mirrors vault disk) (hp : Path.normalize path = path)
    (hfree : ∀ around ∈ Path.ancestors path, vault.hasFile around = false)
    (left : List (List Char)) (hshort : ∀ name ∈ left, Disk.isLongName (String.ofList name) = false) :
    ∀ folder, Path.normalize folder = folder → vault.hasFile folder = false →
      (folder = "" ∨ vault.hasFolder folder = true) →
      Path.segments path = Path.segments folder ++ left →
      disk.walk folder (left.map String.ofList) = .ok (vault.entry path) := by
  induction left with
  | nil =>
      intro folder hf hfile hfolder hsegments
      obtain rfl := Path.eq_of_segments_eq hp hf (by simpa using hsegments)
      rw [List.map_nil, Disk.walk, Vault.entry_of_folder hfile hfolder]
  | cons name rest ih =>
      intro folder hf _ _ hsegments
      obtain ⟨hnormal, hne, -, hsplit, hin⟩ := Path.child_of_segments hp hf hsegments
      simp only [List.map_cons, Disk.walk, hshort name List.mem_cons_self, Bool.false_eq_true, if_false,
        h.look_eq hne]
      generalize Path.child folder (String.ofList name) = child at *
      cases hget : vault.files.get? child with
      | some text =>
          -- Only at the end of the way there may be a document.
          have hend : child = path := by
            by_contra hother
            have hbefore := hfree child ((Path.mem_ancestors_iff hp).mpr ⟨hne, hother, hin⟩)
            rw [Vault.hasFile_of_get? hget] at hbefore
            exact Bool.false_ne_true hbefore.symm
          subst hend
          have hrest : rest = [] := by simpa using hsplit
          subst hrest
          rw [Vault.entry_of_file hget]
          rfl
      | none =>
          have hfile := Vault.hasFile_eq_false_iff.mpr hget
          cases hfolder : vault.hasFolder child with
          | true =>
              rw [Vault.entry_of_folder hfile (.inr hfolder)]
              exact ih (fun part hm => hshort part (List.mem_cons_of_mem _ hm)) child hnormal hfile
                (.inr hfolder) hsplit
          | false =>
              rw [Vault.entry_of_missing hne hfile hfolder, h.tree.entry_eq_none hin hne hfile hfolder]

theorem find_eq (h : Mirrors vault disk) (hp : Path.normalize path = path) (hfits : Disk.Fits path)
    (htop : vault.hasFile "" = false)
    (hfree : ∀ around ∈ Path.ancestors path, vault.hasFile around = false) :
    disk.find path = .ok (vault.entry path) := by
  rw [Disk.find, hfits.usable, if_neg Bool.false_ne_true, Disk.names]
  refine h.walk_eq hp hfree _ (fun name hm => hfits.short _ (List.mem_map_of_mem hm)) "" rfl htop
    (.inl rfl) ?_
  rw [Path.segments_empty, List.nil_append]

end Mirrors

namespace Disk

variable {path : String}

-- Going down makes the folders that are missing, and changes nothing else.
theorem makeFoldersFrom_eq (hp : Path.normalize path = path) (left : List (List Char))
    (hshort : ∀ name ∈ left, isLongName (String.ofList name) = false) :
    ∀ (disk : Disk) (folder : String), Path.normalize folder = folder →
      Path.segments path = Path.segments folder ++ left →
      (∀ around, around ≠ "" → Path.isWithin path around = true → disk.files.get? around = none) →
      (∀ around, around ≠ "" → Path.isWithin folder around = true →
        disk.folders.contains around = true) →
      ∃ folders, disk.makeFoldersFrom folder (left.map String.ofList) =
          (.ok (), { disk with folders := folders }) ∧
        ∀ other, folders.contains other = true ↔ disk.folders.contains other = true ∨
          other ≠ "" ∧ Path.isWithin path other = true := by
  induction left with
  | nil =>
      intro disk folder hf hsegments _ hbehind
      obtain rfl := Path.eq_of_segments_eq hp hf (by simpa using hsegments)
      exact ⟨disk.folders, rfl, fun other => ⟨.inl, Or.rec id fun h => hbehind other h.1 h.2⟩⟩
  | cons name rest ih =>
      intro disk folder hf hsegments hfree hbehind
      obtain ⟨hnormal, hne, hparent, hsplit, hin⟩ := Path.child_of_segments hp hf hsegments
      simp only [List.map_cons, makeFoldersFrom, hshort name List.mem_cons_self, Bool.false_eq_true,
        if_false]
      generalize Path.child folder (String.ofList name) = child at *
      have hmade : ∀ folders : SortedMap Unit, folders.contains child = true →
          (∀ other, disk.folders.contains other = true → folders.contains other = true) →
          ∀ around, around ≠ "" → Path.isWithin child around = true →
            folders.contains around = true := by
        intro folders hchild hkept around haround hw
        by_cases hsame : around = child
        · rwa [hsame]
        · refine hkept around (hbehind around haround ?_)
          exact hparent ▸ Path.isWithin_parent hnormal hsame hw haround
      have hshort : ∀ name ∈ rest, isLongName (String.ofList name) = false := fun part hm =>
        hshort part (List.mem_cons_of_mem _ hm)
      rw [look, hfree child hne hin]
      cases hfolder : disk.folders.contains child with
      | true =>
          exact ih hshort disk child hnormal hsplit hfree (hmade disk.folders hfolder fun _ => id)
      | false =>
          have hinsert := SortedMap.contains_insert disk.folders child
          obtain ⟨folders, hmake, hcontains⟩ := ih hshort
            { disk with folders := disk.folders.insert child () } child hnormal hsplit hfree
            (hmade _ ((hinsert child ()).mpr (.inl rfl)) fun other h => (hinsert other ()).mpr (.inr h))
          refine ⟨folders, hmake, fun other => ?_⟩
          rw [hcontains, hinsert, or_assoc]
          constructor
          · rintro (rfl | h)
            · exact .inr ⟨hne, hin⟩
            · exact h
          · exact .inr

-- What is around a path that a disk can name, the disk can name too.
theorem Fits.parent (hp : Path.normalize path = path) (h : Fits path) : Fits (Path.parent path) := by
  by_cases hne : Path.parent path = ""
  · rw [hne]
    exact ⟨by decide, by decide⟩
  obtain ⟨hbelow, -⟩ := Path.eq_below_of_parent hp hne
  constructor
  · have husable := h.usable
    rw [isUnusable, hbelow, Path.below] at husable
    simp only [isUnusable, Bool.or_eq_false_iff, decide_eq_false_iff_not, String.utf8ByteSize_append,
      String.toList_append, List.contains_eq_mem, List.mem_append, not_or] at husable ⊢
    exact ⟨by omega, husable.2.1.1⟩
  · intro name hm
    refine h.short name ?_
    rw [names, Path.segments_parent hp] at hm
    exact List.map_subset _ (List.dropLast_subset _) hm

theorem Fits.fileName (hp : Path.normalize path = path) (hne : path ≠ "") (h : Fits path) :
    isLongName (Path.fileName path) = false := by
  refine h.short _ (List.mem_map.mpr ⟨(Path.fileName path).toList, ?_, String.ofList_toList⟩)
  obtain ⟨hchild, hname⟩ := Path.eq_child hp hne
  have hsegments := Path.segments_child (Path.normalize_parent hp) hname
  rw [String.ofList_toList, hchild] at hsegments
  rw [hsegments]
  exact List.mem_append_right _ (List.mem_singleton_self _)

end Disk

namespace Mirrors

variable {vault : Vault} {disk : Disk} {path : String}

theorem makeFolders_eq (h : Mirrors vault disk) (hp : Path.normalize path = path)
    (hfits : Disk.Fits path)
    (hfree : ∀ around, around ≠ "" → Path.isWithin path around = true →
      vault.hasFile around = false) :
    ∃ folders, disk.makeFolders path = (.ok (), { disk with folders := folders }) ∧
      ∀ other, folders.contains other = true ↔ vault.hasFolder other = true ∨
        other ≠ "" ∧ Path.isWithin path other = true := by
  have hfiles : ∀ around, around ≠ "" → Path.isWithin path around = true →
      disk.files.get? around = none := by
    intro around hne hw
    rw [h.file, Vault.hasFile_eq_false_iff.mp (hfree around hne hw), Option.map_none]
  rw [Disk.makeFolders, hfits.usable, if_neg Bool.false_ne_true]
  simp only [← h.folder]
  refine Disk.makeFoldersFrom_eq hp _ (fun name hm => hfits.short _ (List.mem_map_of_mem hm)) disk ""
    rfl (by rw [Path.segments_empty, List.nil_append]) hfiles fun around hne hw => ?_
  exact absurd rfl (Path.ne_empty_of_isWithin hw hne)

-- A disk makes the folders around a path as a vault in memory does.
theorem makeParents (h : Mirrors vault disk) (hclean : Path.Clean path) (hfits : Disk.Fits path)
    (hfree : ∀ around ∈ Path.ancestors path, vault.hasFile around = false) :
    ∃ after, disk.makeFolders (Path.parent path) = (.ok (), after) ∧
      Mirrors (vault.withParents path) after := by
  obtain ⟨folders, hmake, hcontains⟩ := h.makeFolders_eq (Path.normalize_parent hclean.normal)
    (hfits.parent hclean.normal) fun around hne hw =>
      hfree around ((Path.mem_ancestors_iff_parent hclean.normal).mpr ⟨hne, hw⟩)
  refine ⟨_, hmake, h.tree.withParents hclean, fun other => ?_, fun other => ?_⟩
  · rw [Vault.files_withParents]
    exact h.file other
  · rw [Bool.eq_iff_iff, hcontains, h.tree.hasFolder_withParents hclean.normal,
      Path.mem_ancestors_iff_parent hclean.normal, or_comm]

theorem makeFolders (h : Mirrors vault disk) (hclean : Path.Clean path) (hne : path ≠ "")
    (hfits : Disk.Fits path) (hfile : vault.hasFile path = false)
    (hfree : ∀ around ∈ Path.ancestors path, vault.hasFile around = false) :
    ∃ after, disk.makeFolders path = (.ok (), after) ∧
      Mirrors ((vault.withParents path).withFolder path) after := by
  have haround : ∀ other, other ≠ "" ∧ Path.isWithin path other = true ↔
      other = path ∨ other ∈ Path.ancestors path := by
    intro other
    rw [Path.mem_ancestors_iff hclean.normal]
    constructor
    · rintro ⟨hother, hw⟩
      by_cases hsame : other = path
      · exact .inl hsame
      · exact .inr ⟨hother, hsame, hw⟩
    · rintro (rfl | ⟨hother, -, hw⟩)
      · exact ⟨hne, Path.isWithin_self _⟩
      · exact ⟨hother, hw⟩
  obtain ⟨folders, hmake, hcontains⟩ := h.makeFolders_eq hclean.normal hfits fun around hother hw => by
    rcases (haround around).mp ⟨hother, hw⟩ with rfl | hm
    · exact hfile
    · exact hfree around hm
  refine ⟨_, hmake, h.tree.withFolder hclean hne, fun other => ?_, fun other => ?_⟩
  · rw [Vault.files_withFolder, Vault.files_withParents]
    exact h.file other
  · rw [Bool.eq_iff_iff, hcontains, haround, Vault.hasFolder_withFolder,
      h.tree.hasFolder_withParents hclean.normal, or_comm, or_assoc]

end Mirrors

end NoteVault
