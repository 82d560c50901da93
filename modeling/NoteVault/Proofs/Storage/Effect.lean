import NoteVault.Proofs.Storage.Tree

namespace NoteVault

-- Calls that only ask.
def Call.IsQuestion {α : Type} : Call α → Prop
  | .read _ | .list _ | .isPresent _ => True
  | .write .. | .delete _ | .rename .. | .createFolder _ => False

-- All paths that a call names.
def Call.paths {α : Type} : Call α → List String
  | .read path | .write path .. | .delete path | .createFolder path | .list path
  | .isPresent path => [path]
  | .rename source target => [source, target]

-- The call with its paths in normal form.
def Call.normalized {α : Type} : Call α → Call α
  | .read path => .read (Path.normalize path)
  | .write path text mode => .write (Path.normalize path) text mode
  | .delete path => .delete (Path.normalize path)
  | .rename source target => .rename (Path.normalize source) (Path.normalize target)
  | .createFolder path => .createFolder (Path.normalize path)
  | .list path => .list (Path.normalize path)
  | .isPresent path => .isPresent (Path.normalize path)

theorem Call.paths_normalized {α : Type} (call : Call α) :
    call.normalized.paths = call.paths.map Path.normalize := by
  cases call <;> rfl

-- A call is refused if one of its paths climbs.
theorem Call.normal_cases {α : Type} (call : Call α) :
    (∃ fault, call.normal = .error fault) ∨
      (∀ path ∈ call.paths, Path.Clean (Path.normalize path)) ∧
        call.normal = .ok call.normalized := by
  cases call with
  | read raw | write raw | delete raw | createFolder raw | list raw | isPresent raw =>
      rcases Path.storagePath_cases raw with ⟨fault, hs⟩ | ⟨hclean, hs⟩
      · exact .inl ⟨fault, by simp only [Call.normal, hs, Except.map]⟩
      · refine .inr ⟨fun path hp => ?_, by simp only [Call.normal, hs, Except.map, normalized]⟩
        rw [List.mem_singleton.mp hp]
        exact hclean
  | rename rawSource rawTarget =>
      rcases Path.storagePath_cases rawSource with ⟨fault, hs⟩ | ⟨hsource, hs⟩
      · exact .inl ⟨fault, by simp only [Call.normal, hs, bind, Except.bind]⟩
      rcases Path.storagePath_cases rawTarget with ⟨fault, ht⟩ | ⟨htarget, ht⟩
      · exact .inl ⟨fault, by simp only [Call.normal, hs, ht, bind, Except.bind]⟩
      refine .inr ⟨fun path hp => ?_, ?_⟩
      · rcases List.mem_pair.mp hp with rfl | rfl
        · exact hsource
        · exact htarget
      · simp only [Call.normal, hs, ht, bind, Except.bind, pure, Except.pure, normalized]

namespace Vault

variable {vault : Vault}

theorem perform_of_normal {α : Type} {call normal : Call α} (h : call.normal = .ok normal) :
    vault.perform call = vault.answer normal := by
  simp only [perform, h]

theorem perform_of_climbs {α : Type} {call : Call α} {fault : StorageFault}
    (h : call.normal = .error fault) : vault.perform call = (.error fault, vault) := by
  simp only [perform, h]

theorem perform_normalized (vault : Vault) {α : Type} (call : Call α) :
    (∃ fault, vault.perform call = (.error fault, vault)) ∨
      (∀ path ∈ call.paths, Path.Clean (Path.normalize path)) ∧
        vault.perform call = vault.answer call.normalized := by
  rcases call.normal_cases with ⟨fault, hn⟩ | ⟨hclean, hn⟩
  · exact .inl ⟨fault, perform_of_climbs hn⟩
  · exact .inr ⟨hclean, perform_of_normal hn⟩

theorem perform_question {α : Type} (call : Call α) (h : call.IsQuestion) :
    (vault.perform call).2 = vault := by
  rcases vault.perform_normalized call with ⟨fault, hr⟩ | ⟨-, hr⟩
  · rw [hr]
  · rw [hr]
    cases call with
    | read | list =>
        simp only [Call.normalized, answer]
        split
        · rfl
        · rfl
    | isPresent => rfl
    | write | delete | rename | createFolder => exact False.elim h

-- A write either is refused, or puts the text in its place.
theorem perform_write (vault : Vault) (raw text : String) (mode : WriteMode) :
    (∃ fault, vault.perform (.write raw text mode) = (.error fault, vault)) ∨
      Path.Clean (Path.normalize raw) ∧
        vault.perform (.write raw text mode) = (.ok (), vault.withFile (Path.normalize raw) text) ∧
        (mode = .create → vault.hasFile (Path.normalize raw) = false) ∧
        (mode = .modify → vault.hasFile (Path.normalize raw) = true) := by
  rcases vault.perform_normalized (.write raw text mode) with hr | ⟨hclean, hr⟩
  · exact .inl hr
  rw [hr]
  simp only [Call.normalized, answer]
  split
  · exact .inl ⟨_, rfl⟩
  · rename_i hcreate
    split
    · exact .inl ⟨_, rfl⟩
    · rename_i hmodify
      refine .inr ⟨hclean raw (List.mem_singleton_self raw), rfl, fun hm => ?_, fun hm => ?_⟩
      · simpa [hm] using hcreate
      · simpa [hm] using hmodify

theorem perform_delete (vault : Vault) (raw : String) :
    (∃ fault, vault.perform (.delete raw) = (.error fault, vault)) ∨
      vault.perform (.delete raw) = (.ok (), vault.withoutFile (Path.normalize raw)) ∧
        vault.hasFile (Path.normalize raw) = true := by
  rcases vault.perform_normalized (.delete raw) with hr | ⟨-, hr⟩
  · exact .inl hr
  rw [hr]
  simp only [Call.normalized, answer]
  split
  · rename_i hfile
    exact .inr ⟨rfl, hfile⟩
  · exact .inl ⟨_, rfl⟩

theorem perform_rename (vault : Vault) (rawSource rawTarget : String) :
    (∃ fault, vault.perform (.rename rawSource rawTarget) = (.error fault, vault)) ∨
      Path.Clean (Path.normalize rawTarget) ∧
        ∃ text, vault.files.get? (Path.normalize rawSource) = some text ∧
          vault.hasFile (Path.normalize rawTarget) = false ∧
          vault.perform (.rename rawSource rawTarget) =
            (.ok (), (vault.withoutFile (Path.normalize rawSource)).withFile
              (Path.normalize rawTarget) text) := by
  rcases vault.perform_normalized (.rename rawSource rawTarget) with hr | ⟨hclean, hr⟩
  · exact .inl hr
  rw [hr]
  simp only [Call.normalized, answer]
  split
  · exact .inl ⟨_, rfl⟩
  · rename_i hfree
    split
    · rename_i text hsource
      refine .inr ⟨hclean rawTarget ?_, text, hsource, by simpa using hfree, rfl⟩
      exact List.mem_cons_of_mem _ (List.mem_singleton_self rawTarget)
    · exact .inl ⟨_, rfl⟩

theorem perform_createFolder (vault : Vault) (raw : String) :
    (∃ fault, vault.perform (.createFolder raw) = (.error fault, vault)) ∨
      vault.perform (.createFolder raw) = (.ok (), vault) ∨
      Path.Clean (Path.normalize raw) ∧ Path.normalize raw ≠ "" ∧
        vault.perform (.createFolder raw) = (.ok (),
          (vault.withParents (Path.normalize raw)).withFolder (Path.normalize raw)) := by
  rcases vault.perform_normalized (.createFolder raw) with hr | ⟨hclean, hr⟩
  · exact .inl hr
  rw [hr]
  simp only [Call.normalized, answer]
  split
  · exact .inr (.inl rfl)
  · rename_i hne
    exact .inr (.inr ⟨hclean raw (List.mem_singleton_self raw), by simpa using hne, rfl⟩)

-- On a clean path a call is answered as it is.
theorem perform_of_clean {α : Type} {call : Call α} (h : ∀ path ∈ call.paths, Path.Clean path) :
    vault.perform call = vault.answer call := by
  refine perform_of_normal ?_
  cases call with
  | read path | write path | delete path | createFolder path | list path | isPresent path =>
      have hs := (h path (by simp [Call.paths])).storagePath_eq
      simp only [Call.normal, hs, Except.map]
  | rename source target =>
      have hs := (h source (by simp [Call.paths])).storagePath_eq
      have ht := (h target (by simp [Call.paths])).storagePath_eq
      simp only [Call.normal, hs, ht, bind, Except.bind, pure, Except.pure]

theorem read_ok {raw text : String} (h : (vault.perform (.read raw)).1 = .ok text) :
    Path.Clean (Path.normalize raw) ∧ vault.files.get? (Path.normalize raw) = some text := by
  rcases vault.perform_normalized (.read raw) with ⟨fault, hr⟩ | ⟨hclean, hr⟩
  · rw [hr] at h
    cases h
  · rw [hr] at h
    simp only [Call.normalized, answer] at h
    split at h
    · rename_i found hfound
      obtain rfl := Except.ok.inj h
      exact ⟨hclean raw (List.mem_singleton_self raw), hfound⟩
    · cases h

theorem read_eq_ok {path text : String} (hp : Path.Clean path) :
    (vault.perform (.read path)).1 = .ok text ↔ vault.files.get? path = some text := by
  rw [perform_of_clean (by simpa [Call.paths] using hp), answer]
  cases vault.files.get? path <;> simp

theorem read_of_file {path text : String} (hclean : Path.Clean path)
    (hget : vault.files.get? path = some text) : vault.perform (.read path) = (.ok text, vault) := by
  rw [perform_of_clean (by simpa [Call.paths] using hclean), answer, hget]

-- A file is read under every name of its place.
theorem read_of_place {raw text : String} (hclean : Path.Clean (Path.normalize raw))
    (hget : vault.files.get? (Path.normalize raw) = some text) :
    vault.perform (.read raw) = (.ok text, vault) := by
  have hs : storagePath raw = .ok (Path.normalize raw) := by
    simp [storagePath, hclean.stays]
  rw [perform_of_normal (show (Call.read raw).normal = .ok (.read (Path.normalize raw)) by
    simp only [Call.normal, hs, Except.map]), answer, hget]

theorem create_of_missing {path : String} (hclean : Path.Clean path)
    (hfile : vault.hasFile path = false) (text : String) :
    vault.perform (.write path text .create) = (.ok (), vault.withFile path text) := by
  rw [perform_of_clean (by simpa [Call.paths] using hclean), answer, if_neg (by simp [hfile]),
    if_neg (by simp)]

theorem modify_of_file {path : String} (hclean : Path.Clean path)
    (hfile : vault.hasFile path = true) (text : String) :
    vault.perform (.write path text .modify) = (.ok (), vault.withFile path text) := by
  rw [perform_of_clean (by simpa [Call.paths] using hclean), answer, if_neg (by simp),
    if_neg (by simp [hfile])]

theorem overwrite_of_clean {path : String} (hclean : Path.Clean path) (text : String) :
    vault.perform (.write path text .overwrite) = (.ok (), vault.withFile path text) := by
  rw [perform_of_clean (by simpa [Call.paths] using hclean), answer, if_neg (by simp),
    if_neg (by simp)]

theorem rename_of_file {source target text : String} (hsource : Path.Clean source)
    (htarget : Path.Clean target) (hget : vault.files.get? source = some text)
    (hfile : vault.hasFile target = false) :
    vault.perform (.rename source target) =
      (.ok (), (vault.withoutFile source).withFile target text) := by
  rw [perform_of_clean (by simpa [Call.paths] using ⟨hsource, htarget⟩), answer, hfile, hget]
  rfl

theorem isPresent_of_clean {path : String} (hclean : Path.Clean path) (hne : path ≠ "") :
    vault.perform (.isPresent path) = (.ok (vault.hasFile path || vault.hasFolder path), vault) := by
  rw [perform_of_clean (by simpa [Call.paths] using hclean), answer,
    String.isEmpty_eq_false_iff.mpr hne, Bool.false_or]

theorem list_of_stays {raw : String} (h : Path.hasTraversal raw = false) :
    vault.perform (.list raw) = vault.answer (.list (Path.normalize raw)) := by
  have hs : storagePath raw = .ok (Path.normalize raw) := by
    simp [storagePath, Path.hasTraversal_normalize, h]
  exact perform_of_normal (by simp only [Call.normal, hs, Except.map])

-- What a list names lies directly in the folder.
theorem list_ok {raw : String} {listing : Listing}
    (h : (vault.perform (.list raw)).1 = .ok listing) :
    (∀ path ∈ listing.files, Path.parent path = Path.normalize raw) ∧
      ∀ path ∈ listing.folders, Path.parent path = Path.normalize raw ∧
        vault.hasFolder path = true := by
  rcases vault.perform_normalized (.list raw) with ⟨fault, hr⟩ | ⟨-, hr⟩
  · rw [hr] at h
    cases h
  · rw [hr, Call.normalized, answer] at h
    split at h
    · obtain rfl := Except.ok.inj h
      simp only [Vault.listing, childrenOf, List.mem_filter, beq_iff_eq, SortedMap.mem_keys]
      exact ⟨fun path hp => hp.2, fun path hp => ⟨hp.2, hp.1⟩⟩
    · cases h

theorem write_ok {raw text : String} {mode : WriteMode}
    (h : (vault.perform (.write raw text mode)).1 = .ok ()) :
    (vault.perform (.write raw text mode)).2 = vault.withFile (Path.normalize raw) text ∧
      (mode = .create → vault.hasFile (Path.normalize raw) = false) ∧
      (mode = .modify → vault.hasFile (Path.normalize raw) = true) := by
  rcases perform_write vault raw text mode with ⟨fault, hr⟩ | ⟨-, hr, hcreate, hmodify⟩
  · rw [hr] at h
    cases h
  · exact ⟨by rw [hr], hcreate, hmodify⟩

theorem delete_ok {raw : String} (h : (vault.perform (.delete raw)).1 = .ok ()) :
    (vault.perform (.delete raw)).2 = vault.withoutFile (Path.normalize raw) ∧
      vault.hasFile (Path.normalize raw) = true := by
  rcases perform_delete vault raw with ⟨fault, hr⟩ | ⟨hr, hfile⟩
  · rw [hr] at h
    cases h
  · exact ⟨by rw [hr], hfile⟩

theorem rename_ok {rawSource rawTarget : String}
    (h : (vault.perform (.rename rawSource rawTarget)).1 = .ok ()) :
    ∃ text, vault.files.get? (Path.normalize rawSource) = some text ∧
      vault.hasFile (Path.normalize rawTarget) = false ∧
      (vault.perform (.rename rawSource rawTarget)).2 =
        (vault.withoutFile (Path.normalize rawSource)).withFile (Path.normalize rawTarget) text := by
  rcases perform_rename vault rawSource rawTarget with
    ⟨fault, hr⟩ | ⟨-, text, hsource, hfree, hr⟩
  · rw [hr] at h
    cases h
  · exact ⟨text, hsource, hfree, by rw [hr]⟩

-- A call that fails changes nothing.
theorem perform_error {α : Type} {call : Call α} {fault : StorageFault}
    (h : (vault.perform call).1 = .error fault) : (vault.perform call).2 = vault := by
  cases call with
  | read path | list path | isPresent path => exact perform_question _ trivial
  | write raw text mode =>
      rcases perform_write vault raw text mode with ⟨_, hr⟩ | ⟨-, hr, -⟩
      · rw [hr]
      · rw [hr] at h
        cases h
  | delete raw =>
      rcases perform_delete vault raw with ⟨_, hr⟩ | ⟨hr, -⟩
      · rw [hr]
      · rw [hr] at h
        cases h
  | rename rawSource rawTarget =>
      rcases perform_rename vault rawSource rawTarget with ⟨_, hr⟩ | ⟨-, text, -, -, hr⟩
      · rw [hr]
      · rw [hr] at h
        cases h
  | createFolder raw =>
      rcases perform_createFolder vault raw with ⟨_, hr⟩ | hr | ⟨-, -, hr⟩
      · rw [hr]
      · rw [hr]
      · rw [hr] at h
        cases h

theorem IsTree.perform (hv : vault.IsTree) {α : Type} (call : Call α) :
    (vault.perform call).2.IsTree := by
  cases call with
  | read path | list path | isPresent path =>
      rwa [perform_question _ (by simp only [Call.IsQuestion])]
  | write raw text mode =>
      rcases perform_write vault raw text mode with ⟨fault, h⟩ | ⟨hclean, h, -⟩
      · rwa [h]
      · rw [h]
        exact hv.withFile hclean text
  | delete raw =>
      rcases perform_delete vault raw with ⟨fault, h⟩ | ⟨h, -⟩
      · rwa [h]
      · rw [h]
        exact hv.withoutFile
  | rename rawSource rawTarget =>
      rcases perform_rename vault rawSource rawTarget with ⟨fault, h⟩ | ⟨hclean, text, -, -, h⟩
      · rwa [h]
      · rw [h]
        exact hv.withoutFile.withFile hclean text
  | createFolder raw =>
      rcases perform_createFolder vault raw with ⟨fault, h⟩ | h | ⟨hclean, hne, h⟩
      · rwa [h]
      · rwa [h]
      · rw [h]
        exact hv.withFolder hclean hne

theorem Reachable.withFile (h : vault.Reachable) {path : String} (hclean : Path.Clean path)
    (text : String) : (vault.withFile path text).Reachable := by
  have hcall := h.call (.write path text .overwrite)
  rwa [perform_of_clean (by simpa [Call.paths] using hclean), answer, if_neg (by simp),
    if_neg (by simp)] at hcall

theorem Reachable.isTree (h : Reachable vault) : vault.IsTree := by
  induction h with
  | empty => exact isTree_empty
  | call call before ih => exact ih.perform call

end Vault

end NoteVault
