import NoteVault.Proofs.Storage.Agreement
import NoteVault.Proofs.Storage.Mirror

namespace NoteVault

theorem Keyed.get?_eq_none_of_lt {ν : Type} {key : String} {entries : Keyed ν}
    (h : ∀ entry ∈ entries, key < entry.1) : get? key entries = none := by
  induction entries with
  | nil => rfl
  | cons entry rest ih =>
      have hne : entry.1 ≠ key := fun he => String.lt_irrefl _ (he ▸ h entry List.mem_cons_self)
      rw [get?, if_neg hne]
      exact ih fun other hm => h other (List.mem_cons_of_mem _ hm)

-- Under other names the values stay with their keys, as long as no two keys fall together.
theorem Keyed.get?_ofList_rename {ν : Type} {rename : String → String} {key source : String}
    {entries : Keyed ν} (hsorted : entries.Sorted)
    (h : ∀ entry ∈ entries, rename entry.1 = key ↔ entry.1 = source) :
    get? key (ofList (entries.map fun entry => (rename entry.1, entry.2))) = get? source entries := by
  suffices hfold : ∀ sorted : Keyed ν,
      get? key ((entries.map fun entry => (rename entry.1, entry.2)).foldl
        (fun sorted entry => insert entry.1 entry.2 sorted) sorted) =
      (get? source entries).or (get? key sorted) by
    rw [ofList, hfold [], get?_nil, Option.or_none]
  induction entries with
  | nil => exact fun _ => rfl
  | cons entry rest ih =>
      intro sorted
      obtain ⟨habove, hrest⟩ := List.pairwise_cons.mp hsorted
      rw [List.map_cons, List.foldl_cons, ih hrest fun other hm => h other (List.mem_cons_of_mem _ hm),
        get?_insert, get?]
      by_cases hentry : entry.1 = source
      · have hlast : get? source rest = none := get?_eq_none_of_lt (hentry ▸ habove)
        rw [if_pos ((h entry List.mem_cons_self).mpr hentry).symm, if_pos hentry, hlast,
          Option.none_or, Option.some_or]
      · have hkey : rename entry.1 ≠ key := fun he => hentry ((h entry List.mem_cons_self).mp he)
        rw [if_neg (Ne.symm hkey), if_neg hentry]

theorem SortedMap.get?_mapKeys {ν : Type} {rename : String → String} {key source : String}
    (map : SortedMap ν)
    (h : ∀ other, map.contains other = true → (rename other = key ↔ other = source)) :
    (map.mapKeys rename).get? key = map.get? source := by
  refine Keyed.get?_ofList_rename map.sorted fun entry hm => h entry.1 ?_
  exact (mem_keys map entry.1).mp (List.mem_map_of_mem hm)

namespace Disk

theorem movedPath_self (source target : String) : movedPath source target source = target := by
  rw [movedPath, if_pos (Path.isWithin_self source), List.drop_length]
  exact String.append_empty

theorem movedPath_of_not {source path : String} (target : String)
    (h : Path.isWithin path source = false) : movedPath source target path = path := by
  rw [movedPath, h, if_neg Bool.false_ne_true]

variable {path : String}

-- A draft is a place of its own beside the document.
theorem draftOf_spec (hp : Path.normalize path = path) (hne : path ≠ "") :
    Path.segments (draftOf path) =
        Path.segments (Path.parent path) ++ [(draftName (Path.fileName path)).toList] ∧
      draftOf path ≠ path ∧ draftOf path ≠ "" := by
  obtain ⟨hpath, hname⟩ := Path.eq_child hp hne
  have hlist : (draftName (Path.fileName path)).toList =
      '.' :: (Path.fileName path).toList ++ ['.', 't', 'm', 'p'] := by
    simp [draftName]
  have hdraft : Path.IsName (draftName (Path.fileName path)).toList := by
    rw [hlist]
    refine ⟨by simp, by simp, ?_⟩
    simpa using hname.2.2
  have hparent := Path.normalize_parent hp
  have hplace : draftOf path =
      Path.child (Path.parent path) (String.ofList (draftName (Path.fileName path)).toList) := by
    rw [draftOf, String.ofList_toList]
  have hsegments := Path.segments_child hparent hdraft
  rw [← hplace] at hsegments
  refine ⟨hsegments, fun hsame => ?_, hplace ▸ Path.child_ne_empty hparent hdraft⟩
  have hown := Path.segments_child hparent hname
  rw [String.ofList_toList, hpath] at hown
  have hnames := List.append_cancel_left
    (hsegments.symm.trans ((congrArg Path.segments hsame).trans hown))
  have hlength := congrArg List.length (List.cons.inj hnames).1
  rw [hlist, List.length_append, List.length_cons] at hlength
  omega

end Disk

namespace Mirrors

variable {vault : Vault} {disk : Disk} {path source target text : String}

-- A document moves alone to a place that is free.
theorem move (h : Mirrors (vault.withParents target) disk) (hv : vault.IsTree)
    (hget : vault.files.get? source = some text) (hsource : source ≠ "")
    (hfolder : (vault.withParents target).hasFolder source = false) (htarget : Path.Clean target)
    (hne : target ≠ "") (hfits : Disk.Fits target) (hfree : vault.hasFile target = false) :
    ∃ after, disk.move source target = (.ok (), after) ∧
      Mirrors ((vault.withoutFile source).withFile target text) after := by
  have hother : source ≠ target := by
    rintro rfl
    rw [Vault.hasFile_of_get? hget] at hfree
    exact Bool.false_ne_true hfree.symm
  have htree := hv.withParents htarget
  have hinside : Path.isWithin target source = false := by
    refine Bool.eq_false_iff.mpr fun hw => ?_
    rw [(hv.hasFolder_withParents htarget.normal).mpr
      (.inl ((Path.mem_ancestors_iff htarget.normal).mpr ⟨hsource, hother, hw⟩))] at hfolder
    exact Bool.false_ne_true hfolder.symm
  have hstay : ∀ other, other ≠ source → vault.hasFile other = true →
      Disk.movedPath source target other = other := by
    intro other hne hfile
    refine Disk.movedPath_of_not target (Bool.eq_false_iff.mpr fun hw => hne ?_)
    exact (htree.eq_of_isWithin hsource hfolder hw).2 (by simpa [Vault.hasFile] using hfile)
  have hfiles : ∀ other, disk.files.contains other = vault.hasFile other := by
    intro other
    rw [SortedMap.contains, h.file, Option.isSome_map, Vault.files_withParents]
    rfl
  have hmoved : ∀ key from_, (target = key ↔ source = from_) →
      (∀ other, other ≠ source → vault.hasFile other = true → (other = key ↔ other = from_)) →
      (disk.files.mapKeys (Disk.movedPath source target)).get? key = disk.files.get? from_ := by
    intro key from_ hsame hothers
    refine disk.files.get?_mapKeys fun other hfile => ?_
    rw [hfiles] at hfile
    by_cases heq : other = source
    · rw [heq, Disk.movedPath_self]
      exact hsame
    · rw [hstay other heq hfile]
      exact hothers other heq hfile
  have hmissing : ∀ other, vault.hasFile other = true → other ≠ target := by
    rintro other hfile rfl
    rw [hfile] at hfree
    exact Bool.false_ne_true hfree.symm
  rw [Disk.move, String.isEmpty_eq_false_iff.mpr hsource, hinside, hfits.fileName htarget.normal hne,
    Bool.or_false, Bool.or_false, if_neg Bool.false_ne_true]
  refine ⟨_, rfl, (hv.withoutFile).withFile htarget text, fun other => ?_, fun other => ?_⟩
  · rw [Vault.get?_withFile, Vault.get?_withoutFile]
    by_cases hto : other = target
    · rw [if_pos hto, hmoved other source (by simp [hto]) fun place hplace hfile => ?_, h.file,
        Vault.files_withParents, hget]
      rw [hto]
      exact ⟨fun he => absurd he (hmissing place hfile), fun he => absurd he hplace⟩
    · rw [if_neg hto]
      by_cases hfrom : other = source
      · rw [if_pos hfrom, hmoved other target (by simp [hfrom, hother, Ne.symm hother])
          fun place hplace hfile => ?_, h.file, Vault.files_withParents,
          Vault.hasFile_eq_false_iff.mp hfree]
        rw [hfrom]
        exact ⟨fun he => absurd he hplace, fun he => absurd he (hmissing place hfile)⟩
      · rw [if_neg hfrom, hmoved other other (by simp [Ne.symm hto, Ne.symm hfrom])
          fun _ _ _ => Iff.rfl, h.file, Vault.files_withParents]
  · have hsame : (disk.folders.mapKeys (Disk.movedPath source target)).get? other =
        disk.folders.get? other := by
      refine disk.folders.get?_mapKeys fun place hplace => ?_
      rw [h.folder] at hplace
      rw [Disk.movedPath_of_not target (Bool.eq_false_iff.mpr fun hw => ?_)]
      rw [(htree.eq_of_isWithin hsource hfolder hw).1] at hplace
      exact Bool.false_ne_true hplace
    rw [SortedMap.contains, hsame, Vault.hasFolder_withFile, Bool.eq_iff_iff,
      hv.withoutFile.hasFolder_withParents htarget.normal, Vault.hasFolder_withoutFile,
      ← hv.hasFolder_withParents htarget.normal, ← h.folder]
    rfl

-- A text is put in its place, and its draft does not stay.
theorem putFile (h : Mirrors (vault.withParents path) disk) (hv : vault.IsTree)
    (hclean : Path.Clean path) (hne : path ≠ "") (hfits : Disk.Fits (Disk.draftOf path))
    (hfolder : (vault.withParents path).hasFolder path = false)
    (hdraft : vault.hasFile (Disk.draftOf path) = false)
    (hdraftFolder : vault.hasFolder (Disk.draftOf path) = false) (text : String) :
    ∃ after, disk.putFile path text = (.ok (), after) ∧ Mirrors (vault.withFile path text) after := by
  obtain ⟨hsegments, hbeside, hdraftNe⟩ := Disk.draftOf_spec hclean.normal hne
  have hshort : Disk.isLongName (Disk.draftName (Path.fileName path)) = false := by
    refine hfits.short _ (List.mem_map.mpr ⟨_, ?_, String.ofList_toList⟩)
    rw [hsegments]
    exact List.mem_append_right _ (List.mem_singleton_self _)
  have hfree : (vault.withParents path).hasFolder (Disk.draftOf path) = false := by
    refine Bool.eq_false_iff.mpr fun hf => ?_
    rcases Vault.mem_ancestors_of_withParents hf with hm | hf
    · obtain ⟨-, hw⟩ := (Path.mem_ancestors_iff_parent hclean.normal).mp hm
      have hlength := (Path.segments_prefix_of_isWithin hw).length_le
      rw [hsegments, List.length_append, List.length_singleton] at hlength
      omega
    · rw [hdraftFolder] at hf
      exact Bool.false_ne_true hf
  have hlookDraft : disk.look (Disk.draftOf path) = none := by
    rw [h.look_eq hdraftNe]
    exact Vault.entry_of_missing hdraftNe (by simpa [Vault.hasFile] using hdraft) hfree
  have hlook : disk.look path ≠ some .folder := by
    rw [h.look_eq hne]
    simp only [Vault.entry, hne, hfolder, false_or, Bool.false_eq_true, if_false]
    cases (vault.withParents path).files.get? path <;> simp
  have hput : disk.putFile path text =
      (.ok (), (disk.withoutFile (Disk.draftOf path)).withFile path (some text)) := by
    have husable := hfits.usable
    simp only [Disk.draftOf] at hlookDraft husable
    simp only [Disk.putFile, hshort, husable, hlookDraft, Bool.or_self, Bool.false_or]
    rw [if_neg (by simp), if_neg (by simpa using hlook)]
    rfl
  refine ⟨_, hput, hv.withFile hclean text, fun other => ?_, fun other => ?_⟩
  · simp only [Disk.withFile, Disk.withoutFile, SortedMap.get?_insert, SortedMap.get?_erase,
      Vault.get?_withFile, h.file, Vault.files_withParents]
    split
    · rfl
    · split
      · rename_i hsame
        rw [hsame, Vault.hasFile_eq_false_iff.mp hdraft, Option.map_none]
      · rfl
  · rw [Vault.hasFolder_withFile]
    exact h.folder other

end Mirrors

end NoteVault
