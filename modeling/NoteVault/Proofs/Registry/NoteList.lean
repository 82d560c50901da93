import NoteVault.Proofs.Path.Resolution
import NoteVault.Proofs.Registry.ByName
import NoteVault.Proofs.Registry.NoteRun
import NoteVault.Proofs.Registry.Walk
import NoteVault.Proofs.Storage.Levels

namespace NoteVault

open Registry Session

variable {σ : Type} {clock : σ → Time.Instant × σ} {root : String} {state : σ} {vault : Vault}
  {base : KnowledgeBase} {folder start : String} {folders : List String}

-- The notes that a list of a folder shows: those below it, or only those directly in it.
def Vault.HoldsNote (vault : Vault) (folder : String) (recursive : Bool) (path : String) : Prop :=
  vault.hasFile path = true ∧ Path.isNote path = true ∧
    if recursive then Path.isWithin path folder = true ∧ path ≠ folder
    else Path.parent path = folder

theorem files_listings (vault : Vault) (folders : List String) :
    ((folders.map vault.listing).flatMap fun listing => listing.files.filter Path.isNote) =
      (Vault.childrenOfAll folders vault.files).filter Path.isNote := by
  rw [List.flatMap_map, Vault.childrenOfAll, List.filter_flatMap]
  rfl

theorem folders_listings (vault : Vault) (folders : List String) :
    (folders.map vault.listing).flatMap Listing.folders =
      Vault.childrenOfAll folders vault.folders := by
  rw [List.flatMap_map, Vault.childrenOfAll]
  rfl

section

variable (hv : vault.IsTree) (hfolders : ∀ folder ∈ folders, Path.Clean folder ∧ folder ≠ "")
include hv hfolders

theorem run_listings : (folders.mapM (listingOf (inMemory .allowing clock root).storage)).run state
    vault = ((.ok (folders.map vault.listing), state), vault) := by
  refine run_mapM fun folder hf => ?_
  obtain ⟨hclean, hne⟩ := hfolders folder hf
  rw [run_listingOf hclean.stays, hclean.normal, hv.listing_or_empty hne]

theorem run_notesIn_flat (levels : Nat) :
    ((inMemory .allowing clock root).notesIn false (levels + 1) folders).run state vault =
      ((.ok (vault.notesOnLevels 1 folders), state), vault) := by
  rw [notesIn, run_bind_ok (run_listings hv hfolders), Vault.notesOnLevels, Vault.notesOnLevels,
    List.append_nil, ← files_listings]
  rfl

theorem run_notesIn_recursive (levels : Nat) :
    ((inMemory .allowing clock root).notesIn true levels folders).run state vault =
      ((.ok (vault.notesOnLevels levels folders), state), vault) := by
  induction levels generalizing folders state with
  | zero => rfl
  | succ levels ih =>
      have hdeeper : ∀ folder ∈ Vault.childrenOfAll folders vault.folders,
          Path.Clean folder ∧ folder ≠ "" :=
        fun folder hf => hv.folder_clean folder (Vault.mem_childrenOfAll.mp hf).1
      rw [notesIn, run_bind_ok (run_listings hv hfolders), Vault.notesOnLevels]
      simp only [files_listings, folders_listings, if_true]
      split
      · rename_i hempty
        rw [List.isEmpty_iff.mp hempty, Vault.notesOnLevels_nil, List.append_nil]
        rfl
      · rw [run_bind_ok (ih hdeeper)]
        rfl

end

section

variable (hv : vault.IsTree) (hclean : Path.Clean folder) (hne : folder ≠ "") (recursive : Bool)
include hv hclean hne

-- A list of a folder itself goes through one level, and a list of all below through all.
theorem run_notesIn : ((inMemory .allowing clock root).notesIn recursive vault.depth [folder]).run
    state vault =
      ((.ok (vault.notesOnLevels (if recursive then vault.depth else 1) [folder]), state), vault) := by
  have hfolders : ∀ other ∈ [folder], Path.Clean other ∧ other ≠ "" := by
    intro other ho
    rw [List.mem_singleton.mp ho]
    exact ⟨hclean, hne⟩
  cases recursive with
  | true => exact run_notesIn_recursive hv hfolders vault.depth
  | false => exact run_notesIn_flat hv hfolders vault.folders.size

omit hclean in
theorem mem_notesOnLevels_iff (path : String) :
    path ∈ vault.notesOnLevels (if recursive then vault.depth else 1) [folder] ↔
      vault.HoldsNote folder recursive path := by
  cases recursive with
  | false =>
      simp only [Vault.HoldsNote, Vault.notesOnLevels, Vault.mem_childrenOfAll, Vault.hasFile,
        List.mem_filter, List.mem_append, List.not_mem_nil, or_false, List.mem_singleton,
        Bool.false_eq_true, if_false, and_assoc, and_comm (a := Path.parent path = folder)]
  | true =>
      have hfolders : "" ∉ [folder] := by simpa using hne.symm
      have hlevels : ∀ other ∈ [folder],
          vault.folders.size < vault.depth + (Path.segments other).length := by
        intro other _
        rw [Vault.depth]
        omega
      simp only [Vault.HoldsNote, if_true]
      constructor
      · intro h
        obtain ⟨hfile, hnote, other, ho, hw⟩ := hv.of_mem_notesOnLevels hfolders h
        rw [List.mem_singleton.mp ho] at hw
        exact ⟨hfile, hnote, (Path.isWithin_parent_iff (hv.file_clean path hfile).normal hne).mp hw⟩
      · rintro ⟨hfile, hnote, hw⟩
        have hparent := (Path.isWithin_parent_iff (hv.file_clean path hfile).normal hne).mpr hw
        exact hv.mem_notesOnLevels hfolders hlevels hfile hnote (List.mem_singleton_self folder) hparent

end

-- Whatever a list of a folder shows lies strictly below it.
theorem Vault.HoldsNote.below {recursive : Bool} {path : String} (hv : vault.IsTree)
    (hne : folder ≠ "") (h : vault.HoldsNote folder recursive path) :
    Path.isWithin path folder = true ∧ path ≠ folder := by
  obtain ⟨hfile, -, hwhere⟩ := h
  cases recursive with
  | true => exact hwhere
  | false =>
      refine (Path.isWithin_parent_iff (hv.file_clean path hfile).normal hne).mp ?_
      rw [show Path.parent path = folder from hwhere]
      exact Path.isWithin_self folder

-- Hence it is a note of the knowledge base, under its own path.
theorem KnowledgeBase.resolveNote_of_holdsNote {recursive : Bool} {path : String} (hv : vault.IsTree)
    (hne : start ≠ "") (hstart : base.resolve folder = .ok start)
    (h : vault.HoldsNote start recursive path) : base.resolveNote path = .ok path := by
  obtain ⟨hw, hbelow⟩ := h.below hv hne
  have hin := (resolve_eq_ok hstart).2.1
  refine resolveNote_of_note (hv.file_clean path h.1) (Path.isWithin_trans hw hin) ?_ h.2.1
  rintro rfl
  exact hbelow (Path.isWithin_antisymm hw hin)

section

variable {name : String} (hbase : ((inMemory .allowing clock root).get name).run state vault =
    ((.ok (some base), state), vault)) (hstart : base.resolve folder = .ok start)
include hbase hstart

-- A folder with a way up cannot be listed.
theorem run_listNotes_climbing (hup : Path.hasTraversal start = true) (recursive : Bool) :
    ((inMemory .allowing clock root).listNotes name folder recursive).run state vault =
      ((.error (.storage (.climbs start)), state), vault) := by
  have hlist : (listingOf (inMemory .allowing clock root).storage start).run state vault =
      ((.error (.storage (.climbs start)), state), vault) := by
    have hrefused : vault.perform (.list start) = (.error (.climbs start), vault) := by
      refine Vault.perform_of_climbs ?_
      simp only [Call.normal, storagePath, Path.hasTraversal_normalize, hup, if_true, Except.map]
    unfold listingOf
    rw [run_bind_ok run_perform, hrefused]
    rfl
  have hnotes : ((inMemory .allowing clock root).notesIn recursive vault.depth [start]).run state
      vault = ((.error (.storage (.climbs start)), state), vault) := by
    rw [Vault.depth, notesIn, List.mapM_cons]
    exact run_bind_error (run_bind_error hlist _) _
  unfold listNotes
  rw [run_bind_ok (run_require hbase), run_bind_ok (run_orFail hstart), run_bind_ok run_depth]
  exact run_bind_error hnotes _

theorem run_listNotes_sorted (hv : vault.IsTree) (hclean : Path.Clean start) (hne : start ≠ "")
    (recursive : Bool) : ∃ paths,
      ((inMemory .allowing clock root).listNotes name folder recursive).run state vault =
        ((.ok paths, state), vault) ∧
      paths.Pairwise (· < ·) ∧ ∀ path, path ∈ paths ↔ vault.HoldsNote start recursive path := by
  have hrun : ((inMemory .allowing clock root).listNotes name folder recursive).run state vault =
      ((.ok ((vault.notesOnLevels (if recursive then vault.depth else 1) [start]).mergeSort
        fun left right => left ≤ right), state), vault) := by
    unfold listNotes
    rw [run_bind_ok (run_require hbase), run_bind_ok (run_orFail hstart), run_bind_ok run_depth,
      run_bind_ok (run_notesIn hv hclean hne recursive)]
    rfl
  refine ⟨_, hrun, ?_, fun path => ?_⟩
  · have hnodup : (vault.notesOnLevels (if recursive then vault.depth else 1) [start]).Nodup :=
      hv.nodup_notesOnLevels (by simpa using hne.symm) (List.nodup_singleton start)
        fun other ho => congrArg (fun path => (Path.segments path).length) (List.mem_singleton.mp ho)
    exact @byName_mergeSort String id _ ((List.map_id _).symm ▸ hnodup)
  · rw [List.mem_mergeSort]
    exact mem_notesOnLevels_iff hv hne recursive path

end

-- A list of a folder in a knowledge base shows the notes strictly below the folder, or only
-- those directly in it, in order and each once. What is shown can be read. The levels that
-- the walk is given are enough: with more of them it finds the same. Only a subfolder with a
-- way up makes the vault refuse the list.
theorem listNotes_exact (hv : vault.Reachable)
    (hbase : ((inMemory .allowing clock root).get base.name).run state vault =
      ((.ok (some base), state), vault))
    (hstart : base.resolve folder = .ok start) (recursive : Bool) :
    (Path.hasTraversal base.subfolder = false → ∃ paths,
      ((inMemory .allowing clock root).listNotes base.name folder recursive).run state vault =
        ((.ok paths, state), vault) ∧
      paths.Pairwise (· < ·) ∧
      (∀ path, path ∈ paths ↔ vault.HoldsNote start recursive path) ∧
      (vault.hasFolder start = false → paths = []) ∧
      (∀ path ∈ paths, ∃ text, vault.files.get? path = some text ∧
        ((inMemory .allowing clock root).readNote base.name path).run state vault =
          ((.ok ⟨path, text⟩, state), vault)) ∧
      ∀ levels, vault.depth ≤ levels →
        ((inMemory .allowing clock root).walkNotes base.name folder recursive levels).run state vault =
          ((.ok paths, state), vault)) ∧
    (Path.hasTraversal base.subfolder = true →
      ((inMemory .allowing clock root).listNotes base.name folder recursive).run state vault =
        ((.error (.storage (.climbs start)), state), vault)) := by
  have htree := hv.isTree
  obtain ⟨record, hrecord, -⟩ := recorded_of_get hbase
  have hne := Path.ne_empty_of_isWithin (KnowledgeBase.resolve_eq_ok hstart).2.1
    (KnowledgeBase.subfolder_of_ofRecord hrecord).2
  have hclimbs := KnowledgeBase.hasTraversal_of_resolve hstart
  refine ⟨fun hstays => ?_, fun hup =>
    run_listNotes_climbing hbase hstart (hclimbs.trans hup) recursive⟩
  have hclean := KnowledgeBase.clean_of_resolve hstays hstart
  obtain ⟨paths, hrun, hsorted, hmem⟩ :=
    run_listNotes_sorted hbase hstart htree hclean hne recursive
  refine ⟨paths, hrun, hsorted, hmem, fun hmissing => ?_, fun path hpath => ?_, fun levels hlevels => ?_⟩
  · refine List.eq_nil_iff_forall_not_mem.mpr fun path hpath => ?_
    have hholds := (hmem path).mp hpath
    have hw := (Path.isWithin_parent_iff (htree.file_clean path hholds.1).normal hne).mpr
      (hholds.below htree hne)
    rw [(htree.hasFolder_of_file hholds.1 hw hne).2] at hmissing
    cases hmissing
  · have hholds := (hmem path).mp hpath
    obtain ⟨text, htext⟩ := Option.isSome_iff_exists.mp hholds.1
    exact ⟨text, htext, run_readNote hbase hstays
      (KnowledgeBase.resolveNote_of_holdsNote htree hne hstart hholds) htext⟩
  · exact (run_listNotes htree base.name folder recursive hlevels).symm.trans hrun

-- A note deep below the subfolder is shown, and a document that is no note is not.
theorem listNotes_exact_deep :
    let base : KnowledgeBase := .bare "team" "docs"
    let registry : Registry (Session Unit) := inMemory .allowing (fun _ => (base.createTime, ())) ".kb"
    let vault := ((Vault.empty.withFile (recordPlace ".kb" "team") base.record).withFile
      "docs/api/old/plan.md" "Begin.").withFile "docs/plan.txt" "End."
    vault.Reachable ∧
      (registry.get base.name).run () vault = ((.ok (some base), ()), vault) ∧
      base.resolve "" = .ok "docs" ∧ Path.hasTraversal base.subfolder = false ∧
      ∃ paths, (registry.listNotes base.name "" true).run () vault = ((.ok paths, ()), vault) ∧
        "docs/api/old/plan.md" ∈ paths ∧ "docs/plan.txt" ∉ paths ∧
        (registry.readNote base.name "docs/api/old/plan.md").run () vault =
          ((.ok ⟨"docs/api/old/plan.md", "Begin."⟩, ()), vault) := by
  intro base registry vault
  have hv : vault.Reachable := ((Vault.Reachable.empty.withFile ⟨by decide, by decide⟩ _).withFile
    ⟨by decide, by decide⟩ _).withFile ⟨by decide, by decide⟩ _
  have hkeeps : vault.Keeps ".kb" base := by
    refine ⟨by decide, base.record, ?_, KnowledgeBase.ofRecord_bare
      (KnowledgeBase.isRecordable_bare ⟨by decide, by decide⟩ (by decide) (by decide))⟩
    rw [Vault.get?_withFile, if_neg (by decide), Vault.get?_withFile, if_neg (by decide),
      Vault.get?_withFile]
    exact if_pos rfl
  have hbase : (registry.get base.name).run () vault = ((.ok (some base), ()), vault) :=
    (run_get_iff ⟨by decide, by decide⟩ (by decide)).mpr ⟨by decide, rfl, hkeeps⟩
  have hstart : base.resolve "" = .ok "docs" := by decide
  have hstays : Path.hasTraversal base.subfolder = false := by decide
  obtain ⟨paths, hrun, -, hmem, -, hread, -⟩ := (listNotes_exact hv hbase hstart true).1 hstays
  have hplan : "docs/api/old/plan.md" ∈ paths :=
    (hmem _).mpr ⟨by decide, by decide, by decide, by decide⟩
  have hother : "docs/plan.txt" ∉ paths := fun h => absurd ((hmem _).mp h).2.1 (by decide)
  obtain ⟨text, htext, hnote⟩ := hread _ hplan
  have hbegin : vault.files.get? "docs/api/old/plan.md" = some "Begin." := by
    rw [Vault.get?_withFile, if_neg (by decide), Vault.get?_withFile, if_pos rfl]
  obtain rfl := Option.some.inj (hbegin.symm.trans htext)
  exact ⟨hv, hbase, hstart, hstays, paths, hrun, hplan, hother, hnote⟩

-- A record whose subfolder has a way up makes a list of no notes fail.
theorem listNotes_refused :
    let text := "---\ncreate_time: \"2024-05-17T08:30:00Z\"\nsubfolder: \"..\"\n---\n"
    let base : KnowledgeBase := .bare "team" ".."
    let registry : Registry (Session Unit) := inMemory .allowing (fun _ => (base.createTime, ())) ".kb"
    let vault := Vault.empty.withFile (recordPlace ".kb" "team") text
    vault.Reachable ∧ result (registry.get "team").run () vault = .ok (some base) ∧
      base.resolve "" = .ok ".." ∧ vault.hasFolder ".." = false ∧
      result (registry.listNotes "team" "" true).run () vault = .error (.storage (.climbs "..")) := by
  intro text base registry vault
  refine ⟨Vault.Reachable.empty.withFile ⟨by decide, by decide⟩ _, ?_, by decide, by decide, ?_⟩
  · decide +kernel
  · decide +kernel

end NoteVault
