import NoteVault.Proofs.Storage.Placing

namespace NoteVault

-- The tag that callers tell faults apart by.
def StorageFault.kind (fault : StorageFault) : String :=
  (Failure.storage fault).kind

-- What calls, made one after another, leave of a disk.
def Disk.after (disk : Disk) (calls : List AnyCall) : Disk :=
  calls.foldl (fun disk call => (disk.perform call.2).2) disk

-- The answer that a disk gives in the place of a vault in memory. It does not list
-- what is named like a draft, and of a rename it looks for the source first.
def Vault.answerOnDisk {α : Type} (vault : Vault) : Call α → Except StorageFault α
  | .list path => (vault.perform (.list path)).1.map fun listing =>
      ⟨Disk.visible listing.files, Disk.visible listing.folders⟩
  | .rename source target =>
    match (vault.perform (.rename source target)).1 with
    | .error (.alreadyExists path) =>
      .error (if vault.hasFile (Path.normalize source) then .alreadyExists path else .notFound source)
    | answer => answer
  | call@(.read _) | call@(.write ..) | call@(.delete _) | call@(.createFolder _)
  | call@(.isPresent _) => (vault.perform call).1

variable {vault : Vault} {disk : Disk}

theorem storagePath_of_clean {raw : String} (h : Path.Clean (Path.normalize raw)) :
    storagePath raw = .ok (Path.normalize raw) := by
  simp [storagePath, h.stays]

theorem Call.normal_error {α : Type} {call : Call α} {fault : StorageFault}
    (h : call.normal = .error fault) :
    (∃ path, fault = .climbs path) ∧ ∀ disk : Disk, disk.perform call = (.error fault, disk) := by
  have hclimbs : ∀ {raw : String} {fault : StorageFault}, storagePath raw = .error fault →
      ∃ path, fault = .climbs path := by
    intro raw fault hs
    rw [storagePath] at hs
    split at hs
    · exact ⟨raw, (Except.error.inj hs).symm⟩
    · cases hs
  cases call with
  | read raw | write raw | delete raw | createFolder raw | list raw | isPresent raw =>
      cases hs : storagePath raw with
      | ok path =>
          simp only [Call.normal, hs, Except.map] at h
          cases h
      | error other =>
          simp only [Call.normal, hs, Except.map] at h
          obtain rfl := Except.error.inj h
          exact ⟨hclimbs hs, fun disk => by simp only [Disk.perform, Disk.atNormal, hs]⟩
  | rename source target =>
      cases hs : storagePath source with
      | error other =>
          simp only [Call.normal, hs, bind, Except.bind] at h
          obtain rfl := Except.error.inj h
          exact ⟨hclimbs hs, fun disk => by simp only [Disk.perform, Disk.atNormal, hs]⟩
      | ok normalSource =>
          cases ht : storagePath target with
          | error other =>
              simp only [Call.normal, hs, ht, bind, Except.bind] at h
              obtain rfl := Except.error.inj h
              exact ⟨hclimbs ht, fun disk => by simp only [Disk.perform, Disk.atNormal, hs, ht]⟩
          | ok normalTarget =>
              simp only [Call.normal, hs, ht, bind, Except.bind, pure, Except.pure] at h
              cases h

namespace Mirrors

-- The place of a path that a call names is found on the disk.
theorem find_of_mem (h : Mirrors vault disk) {α : Type} {call : Call α} (hsuits : vault.Suits call)
    (hfits : call.Fits) {raw : String} (hraw : raw ∈ call.paths) :
    disk.find (Path.normalize raw) = .ok (vault.entry (Path.normalize raw)) :=
  h.find_eq (Path.normalize_normalize raw)
    (hfits _ (List.mem_append_left _ (List.mem_map_of_mem hraw)))
    (hsuits.folder _ call.empty_mem_folders) fun _ hm =>
      hsuits.folder _ (Call.mem_folders_of_mem_ancestors hraw hm)

theorem listing_eq (h : Mirrors vault disk) (folder : String) :
    disk.listing folder = ⟨Disk.visible (vault.listing folder).files,
      Disk.visible (vault.listing folder).folders⟩ := by
  have hfiles : Vault.childrenOf folder disk.files = Vault.childrenOf folder vault.files := by
    refine Vault.childrenOf_congr fun path _ _ => ?_
    rw [SortedMap.contains, h.file, Option.isSome_map]
    rfl
  have hfolders : Vault.childrenOf folder disk.folders = Vault.childrenOf folder vault.folders :=
    Vault.childrenOf_congr fun path _ _ => h.folder path
  rw [Disk.listing, hfiles, hfolders, Vault.listing]

variable {raw rawSource rawTarget text : String} {mode : WriteMode}

theorem read (h : Mirrors vault disk) (hsuits : vault.Suits (.read raw))
    (hfits : (Call.read raw).Fits) :
    (disk.read raw (Path.normalize raw)).mapError StorageFault.kind =
      (vault.answer (.read (Path.normalize raw))).1.mapError StorageFault.kind := by
  obtain ⟨hne, hfolder⟩ := hsuits.document _ (List.mem_singleton_self _)
  rw [Disk.read, Disk.present, h.find_of_mem hsuits hfits (List.mem_singleton_self raw),
    Vault.entry_of_document hne hfolder, Vault.answer]
  cases vault.files.get? (Path.normalize raw) <;> rfl

theorem write (h : Mirrors vault disk) (hclean : Path.Clean (Path.normalize raw))
    (hsuits : vault.Suits (.write raw text mode)) (hfits : (Call.write raw text mode).Fits) :
    (disk.write raw (Path.normalize raw) text mode).1.mapError StorageFault.kind =
        (vault.answer (.write (Path.normalize raw) text mode)).1.mapError StorageFault.kind ∧
      Mirrors (vault.answer (.write (Path.normalize raw) text mode)).2
        (disk.write raw (Path.normalize raw) text mode).2 := by
  obtain ⟨hne, hfolder⟩ := hsuits.document _ (List.mem_singleton_self _)
  have hfound : (vault.entry (Path.normalize raw)).isSome = vault.hasFile (Path.normalize raw) := by
    rw [Vault.entry_of_document hne hfolder, Option.isSome_map]
    rfl
  have hmissing : (vault.entry (Path.normalize raw)).isNone = !vault.hasFile (Path.normalize raw) := by
    rw [← hfound, Option.not_isSome]
  have hperform : vault.perform (.write raw text mode) =
      vault.answer (.write (Path.normalize raw) text mode) :=
    Vault.perform_of_normal (by simp only [Call.normal, storagePath_of_clean hclean, Except.map])
  rw [Disk.write, h.find_of_mem hsuits hfits (List.mem_singleton_self raw)]
  simp only [Vault.answer, hfound, hmissing] at hperform ⊢
  by_cases hcreate : mode = .create ∧ vault.hasFile (Path.normalize raw) = true
  · rw [if_pos hcreate, if_pos hcreate]
    exact ⟨rfl, h⟩
  by_cases hmodify : mode = .modify ∧ (!vault.hasFile (Path.normalize raw)) = true
  · rw [if_neg hcreate, if_neg hcreate, if_pos hmodify, if_pos hmodify]
    exact ⟨rfl, h⟩
  rw [if_neg hcreate, if_neg hmodify] at hperform ⊢
  rw [if_neg hcreate, if_neg hmodify, if_neg (by simpa using hne)]
  obtain ⟨hdraft, hdraftFolder⟩ := hsuits.draft (by rw [hperform]; rfl) _ (List.mem_singleton_self _)
  have hpathFits : Disk.Fits (Path.normalize raw) := hfits _ List.mem_cons_self
  obtain ⟨middle, hmake, hmiddle⟩ := h.makeParents hclean hpathFits fun _ hm =>
    hsuits.folder _ (Call.mem_folders_of_mem_ancestors (List.mem_singleton_self raw) hm)
  have haround : (vault.withParents (Path.normalize raw)).hasFolder (Path.normalize raw) = false := by
    refine Bool.eq_false_iff.mpr fun hf => ?_
    rcases Vault.mem_ancestors_of_withParents hf with hm | hf
    · exact ((Path.mem_ancestors_iff hclean.normal).mp hm).2.1 rfl
    · rw [hfolder] at hf
      exact Bool.false_ne_true hf
  obtain ⟨after, hput, hafter⟩ := hmiddle.putFile h.tree hclean hne
    (hfits _ (List.mem_append_right _ (List.mem_singleton_self _))) haround hdraft hdraftFolder text
  rw [hmake]
  simp only [hput]
  exact ⟨trivial, hafter⟩

theorem delete (h : Mirrors vault disk) (hsuits : vault.Suits (.delete raw))
    (hfits : (Call.delete raw).Fits) :
    (disk.delete raw (Path.normalize raw)).1.mapError StorageFault.kind =
        (vault.answer (.delete (Path.normalize raw))).1.mapError StorageFault.kind ∧
      Mirrors (vault.answer (.delete (Path.normalize raw))).2
        (disk.delete raw (Path.normalize raw)).2 := by
  obtain ⟨hne, hfolder⟩ := hsuits.document _ (List.mem_singleton_self _)
  rw [Disk.delete, Disk.present, h.find_of_mem hsuits hfits (List.mem_singleton_self raw),
    Vault.entry_of_document hne hfolder, Vault.answer, Vault.hasFile, SortedMap.contains]
  cases vault.files.get? (Path.normalize raw) with
  | none => exact ⟨rfl, h⟩
  | some text =>
      refine ⟨rfl, h.tree.withoutFile, fun other => ?_, h.folder⟩
      simp only [Option.map_some, Option.isSome_some, if_true, Disk.withoutFile, SortedMap.get?_erase,
        Vault.get?_withoutFile, h.file]
      split <;> rfl

theorem createFolder (h : Mirrors vault disk) (hclean : Path.Clean (Path.normalize raw))
    (hsuits : vault.Suits (.createFolder raw)) (hfits : (Call.createFolder raw).Fits) :
    (disk.makeFolders (Path.normalize raw)).1.mapError StorageFault.kind =
        (vault.answer (.createFolder (Path.normalize raw))).1.mapError StorageFault.kind ∧
      Mirrors (vault.answer (.createFolder (Path.normalize raw))).2
        (disk.makeFolders (Path.normalize raw)).2 := by
  have hpathFits : Disk.Fits (Path.normalize raw) := hfits _ List.mem_cons_self
  rw [Vault.answer]
  split
  · rename_i hempty
    rw [String.isEmpty_iff.mp hempty]
    exact ⟨rfl, h⟩
  · rename_i hne
    obtain ⟨after, hmake, hafter⟩ := h.makeFolders hclean (by simpa using hne) hpathFits
      (hsuits.folder _ List.mem_cons_self) fun _ hm =>
        hsuits.folder _ (Call.mem_folders_of_mem_ancestors (List.mem_singleton_self raw) hm)
    rw [hmake]
    exact ⟨rfl, hafter⟩

theorem list (h : Mirrors vault disk) (hsuits : vault.Suits (.list raw))
    (hfits : (Call.list raw).Fits) :
    disk.list raw (Path.normalize raw) =
      if (Path.normalize raw).isEmpty || vault.hasFolder (Path.normalize raw) then
        .ok ⟨Disk.visible (vault.listing (Path.normalize raw)).files,
          Disk.visible (vault.listing (Path.normalize raw)).folders⟩
      else .error (.notFound raw) := by
  have hfile := hsuits.folder _ List.mem_cons_self
  rw [Disk.list, Disk.present, h.find_of_mem hsuits hfits (List.mem_singleton_self raw)]
  by_cases hpresent : Path.normalize raw = "" ∨ vault.hasFolder (Path.normalize raw) = true
  · rw [Vault.entry_of_folder hfile hpresent, if_pos (by simpa using hpresent), ← h.listing_eq]
    rfl
  · obtain ⟨hne, hfolder⟩ : Path.normalize raw ≠ "" ∧ vault.hasFolder (Path.normalize raw) = false := by
      simpa using hpresent
    rw [Vault.entry_of_missing hne hfile hfolder, if_neg (by simpa using hpresent)]
    rfl

theorem rename (h : Mirrors vault disk) (hsource : Path.Clean (Path.normalize rawSource))
    (htarget : Path.Clean (Path.normalize rawTarget))
    (hsuits : vault.Suits (.rename rawSource rawTarget))
    (hfits : (Call.rename rawSource rawTarget).Fits) :
    (disk.rename rawSource rawTarget (Path.normalize rawSource)
        (Path.normalize rawTarget)).1.mapError StorageFault.kind =
        (vault.answerOnDisk (.rename rawSource rawTarget)).mapError StorageFault.kind ∧
      Mirrors (vault.perform (.rename rawSource rawTarget)).2
        (disk.rename rawSource rawTarget (Path.normalize rawSource) (Path.normalize rawTarget)).2 := by
  have hsourceMem : rawSource ∈ (Call.rename rawSource rawTarget).paths := List.mem_cons_self
  have htargetMem : rawTarget ∈ (Call.rename rawSource rawTarget).paths :=
    List.mem_cons_of_mem _ (List.mem_singleton_self _)
  obtain ⟨hsourceNe, hsourceFolder⟩ := hsuits.document (Path.normalize rawSource) List.mem_cons_self
  obtain ⟨htargetNe, htargetFolder⟩ := hsuits.document (Path.normalize rawTarget)
    (List.mem_cons_of_mem _ (List.mem_singleton_self _))
  have hperform : vault.perform (.rename rawSource rawTarget) =
      vault.answer (.rename (Path.normalize rawSource) (Path.normalize rawTarget)) :=
    Vault.perform_of_normal (by
      simp only [Call.normal, storagePath_of_clean hsource, storagePath_of_clean htarget, bind,
        Except.bind, pure, Except.pure])
  rw [Disk.rename, h.find_of_mem hsuits hfits hsourceMem,
    Vault.entry_of_document hsourceNe hsourceFolder,
    h.find_of_mem hsuits hfits htargetMem,
    Vault.entry_of_document htargetNe htargetFolder]
  simp only [Vault.answerOnDisk, hperform, Vault.answer, Vault.hasFile, SortedMap.contains]
  rcases Option.eq_none_or_eq_some (vault.files.get? (Path.normalize rawSource)) with
    hget | ⟨text, hget⟩
  · rcases Option.eq_none_or_eq_some (vault.files.get? (Path.normalize rawTarget)) with
      hfree | ⟨other, hfree⟩
    · simp only [hget, hfree]
      exact ⟨rfl, h⟩
    · simp only [hget, hfree]
      exact ⟨rfl, h⟩
  rcases Option.eq_none_or_eq_some (vault.files.get? (Path.normalize rawTarget)) with
    hfree | ⟨other, hfree⟩
  · have htargetFits : Disk.Fits (Path.normalize rawTarget) :=
      hfits _ (List.mem_append_left _ (List.mem_map_of_mem htargetMem))
    have haround : ∀ around ∈ Path.ancestors (Path.normalize rawTarget),
        vault.hasFile around = false := fun _ hm =>
      hsuits.folder _ (Call.mem_folders_of_mem_ancestors htargetMem hm)
    have hsourceStays :
        (vault.withParents (Path.normalize rawTarget)).hasFolder (Path.normalize rawSource) = false := by
      refine Bool.eq_false_iff.mpr fun hf => ?_
      rcases Vault.mem_ancestors_of_withParents hf with hm | hf
      · have hfile := haround _ hm
        rw [Vault.hasFile_of_get? hget] at hfile
        exact Bool.false_ne_true hfile.symm
      · rw [hsourceFolder] at hf
        exact Bool.false_ne_true hf
    obtain ⟨middle, hmake, hmiddle⟩ := h.makeParents htarget htargetFits haround
    obtain ⟨after, hmove, hafter⟩ := hmiddle.move h.tree hget hsourceNe hsourceStays htarget htargetNe
      htargetFits (Vault.hasFile_eq_false_iff.mpr hfree)
    simp only [hget, hfree, Option.map_some, Option.map_none, hmake, hmove]
    exact ⟨rfl, hafter⟩
  · simp only [hget, hfree]
    exact ⟨rfl, h⟩

-- A call is answered by a disk as by the vault that it mirrors, and the two stay alike.
theorem perform (h : Mirrors vault disk) {α : Type} {call : Call α} (hsuits : vault.Suits call)
    (hfits : call.Fits) :
    (disk.perform call).1.mapError StorageFault.kind =
        (vault.answerOnDisk call).mapError StorageFault.kind ∧
      Mirrors (vault.perform call).2 (disk.perform call).2 := by
  rcases call.normal_cases with ⟨fault, hn⟩ | ⟨hclean, hn⟩
  · obtain ⟨⟨path, rfl⟩, hdisk⟩ := Call.normal_error hn
    have hvault : vault.perform call = (.error (.climbs path), vault) := Vault.perform_of_climbs hn
    rw [hdisk, hvault]
    cases call with
    | read | write | delete | rename | createFolder | isPresent =>
        simp only [Vault.answerOnDisk, hvault]
        exact ⟨trivial, h⟩
    | list =>
        simp only [Vault.answerOnDisk, hvault]
        exact ⟨rfl, h⟩
  · have hperform : vault.perform call = vault.answer call.normalized := Vault.perform_of_normal hn
    cases call with
    | read raw =>
        have hs := storagePath_of_clean (hclean raw (List.mem_singleton_self raw))
        have hanswer := h.read hsuits hfits
        rw [Vault.answerOnDisk, vault.perform_question (.read raw) trivial, hperform]
        simp only [Disk.perform, Disk.atNormal, hs]
        exact ⟨hanswer, h⟩
    | write raw text mode =>
        have hs := storagePath_of_clean (hclean raw (List.mem_singleton_self raw))
        rw [Vault.answerOnDisk, hperform]
        simp only [Disk.perform, Disk.atNormal, hs]
        exact h.write (hclean raw (List.mem_singleton_self raw)) hsuits hfits
    | delete raw =>
        have hs := storagePath_of_clean (hclean raw (List.mem_singleton_self raw))
        rw [Vault.answerOnDisk, hperform]
        simp only [Disk.perform, Disk.atNormal, hs]
        exact h.delete hsuits hfits
    | rename source target =>
        have hsource := hclean source (by simp [Call.paths])
        have htarget := hclean target (by simp [Call.paths])
        simp only [Disk.perform, Disk.atNormal, storagePath_of_clean hsource,
          storagePath_of_clean htarget]
        exact h.rename hsource htarget hsuits hfits
    | createFolder raw =>
        have hs := storagePath_of_clean (hclean raw (List.mem_singleton_self raw))
        rw [Vault.answerOnDisk, hperform]
        simp only [Disk.perform, Disk.atNormal, hs]
        exact h.createFolder (hclean raw (List.mem_singleton_self raw)) hsuits hfits
    | list raw =>
        have hs := storagePath_of_clean (hclean raw (List.mem_singleton_self raw))
        rw [Vault.answerOnDisk, vault.perform_question (.list raw) trivial, hperform]
        simp only [Disk.perform, Disk.atNormal, hs, h.list hsuits hfits, Call.normalized, Vault.answer]
        refine ⟨?_, h⟩
        split <;> rfl
    | isPresent raw =>
        have hs := storagePath_of_clean (hclean raw (List.mem_singleton_self raw))
        have hfind := h.find_of_mem hsuits hfits (List.mem_singleton_self raw)
        rw [Vault.answerOnDisk, vault.perform_question (.isPresent raw) trivial, hperform]
        simp only [Disk.perform, Disk.atNormal, hs, hfind, Except.map, Vault.isSome_entry,
          Call.normalized, Vault.answer]
        exact ⟨trivial, h⟩

-- What holds for one call holds for any number of them.
theorem after (calls : List AnyCall) (honeWay : UsedOneWay calls)
    (hdrafts : Vault.empty.SparesDrafts calls) (hlimits : WithinLimits calls) :
    Mirrors (Vault.empty.after calls) (Disk.empty.after calls) := by
  induction calls using List.reverseRecOn with
  | nil => exact .empty
  | append_singleton calls call ih =>
      obtain ⟨hearlier, hlast⟩ := (Vault.sparesDrafts_append _ calls call).mp hdrafts
      have hbefore := ih honeWay.of_append hearlier hlimits.of_append
      rw [Vault.after, Disk.after, List.foldl_append, List.foldl_append]
      exact (hbefore.perform ((Vault.MadeBy.after calls).suits honeWay hlast)
        (hlimits call (List.mem_append_right _ (List.mem_singleton_self _)))).2

end Mirrors

-- After any calls, a further call is answered by a disk as by a vault in memory, if no
-- path is both a document and a folder, and nothing is where a draft has to be.
theorem perform_after_on_disk (calls : List AnyCall) {α : Type} (call : Call α)
    (honeWay : UsedOneWay (calls ++ [⟨α, call⟩]))
    (hdrafts : Vault.empty.SparesDrafts (calls ++ [⟨α, call⟩]))
    (hlimits : WithinLimits (calls ++ [⟨α, call⟩])) :
    ((Disk.empty.after calls).perform call).1.mapError StorageFault.kind =
      ((Vault.empty.after calls).answerOnDisk call).mapError StorageFault.kind := by
  obtain ⟨hearlier, hlast⟩ := (Vault.sparesDrafts_append _ calls ⟨α, call⟩).mp hdrafts
  have hmirrors := Mirrors.after calls honeWay.of_append hearlier hlimits.of_append
  exact (hmirrors.perform ((Vault.MadeBy.after calls).suits honeWay hlast)
    (hlimits _ (List.mem_append_right _ (List.mem_singleton_self _)))).1

-- A document that was written twice and renamed is read, and one that is missing is
-- renamed onto it.
theorem perform_after_on_disk_renamed :
    let calls : List AnyCall := [⟨_, .write "notes/a.md" "one" .create⟩,
      ⟨_, .write "/notes//a.md" "two" .modify⟩, ⟨_, .rename "notes/a.md" "archive/a.md"⟩]
    ((Disk.empty.after calls).perform (.read "archive/a.md")).1.mapError StorageFault.kind =
        .ok "two" ∧
      ((Disk.empty.after calls).perform (.rename "notes/b.md" "archive/a.md")).1.mapError
        StorageFault.kind = .error "NotFound" := by
  constructor
  · exact (perform_after_on_disk _ _ (by decide) (by decide) (by decide)).trans (by decide)
  · exact (perform_after_on_disk _ _ (by decide) (by decide) (by decide)).trans (by decide)

-- Answers differ though no path is both a document and a folder: for a document named like
-- a draft, for one that a draft takes the place of, and for a missing one that is renamed.
theorem answers_differ_on_disk :
    (let calls : List AnyCall := [⟨_, .write "n/.a.tmp" "one" .create⟩]
     UsedOneWay (calls ++ [⟨_, .list "n"⟩]) ∧ WithinLimits (calls ++ [⟨_, .list "n"⟩]) ∧
        ((Disk.empty.after calls).perform (.list "n")).1 = .ok ⟨[], []⟩ ∧
        ((Vault.empty.after calls).perform (.list "n")).1 = .ok ⟨["n/.a.tmp"], []⟩) ∧
    (let calls : List AnyCall := [⟨_, .write "n/.b.tmp" "one" .create⟩,
        ⟨_, .write "n/b" "two" .create⟩]
     UsedOneWay (calls ++ [⟨_, .read "n/.b.tmp"⟩]) ∧
        WithinLimits (calls ++ [⟨_, .read "n/.b.tmp"⟩]) ∧
        ((Disk.empty.after calls).perform (.read "n/.b.tmp")).1.mapError StorageFault.kind =
          .error "NotFound" ∧
        ((Vault.empty.after calls).perform (.read "n/.b.tmp")).1 = .ok "one") ∧
    (let calls : List AnyCall := [⟨_, .write "b" "one" .create⟩]
     UsedOneWay (calls ++ [⟨_, .rename "a" "b"⟩]) ∧ WithinLimits (calls ++ [⟨_, .rename "a" "b"⟩]) ∧
        ((Disk.empty.after calls).perform (.rename "a" "b")).1.mapError StorageFault.kind =
          .error "NotFound" ∧
        ((Vault.empty.after calls).perform (.rename "a" "b")).1.mapError StorageFault.kind =
          .error "AlreadyExists") := by
  refine ⟨⟨?_, ?_, ?_, ?_⟩, ⟨?_, ?_, ?_, ?_⟩, ?_, ?_, ?_, ?_⟩ <;> decide

end NoteVault
