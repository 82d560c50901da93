import NoteVault.Proofs.Storage.Effect

namespace NoteVault

-- The places that a call may change, in normal form.
def Call.places {α : Type} : Call α → List String
  | .write raw .. | .delete raw | .createFolder raw => [Path.normalize raw]
  | .rename source target => [Path.normalize source, Path.normalize target]
  | .read _ | .list _ | .isPresent _ => []

namespace Vault

variable {before middle after : Vault} {places others : String → Prop}

-- What becomes of a vault by calls that touch certain places only. New folders
-- lie around these places, and no folder is lost.
structure Confined (places : String → Prop) (before after : Vault) : Prop where
  tree : before.IsTree → after.IsTree
  file : ∀ path, ¬places path → after.files.get? path = before.files.get? path
  kept : ∀ path, before.hasFolder path = true → after.hasFolder path = true
  folder : ∀ path, after.hasFolder path = true → before.hasFolder path = true ∨
    path ≠ "" ∧ ∃ place, places place ∧ Path.isWithin place path = true

namespace Confined

theorem refl (vault : Vault) : Confined places vault vault :=
  ⟨id, fun _ _ => rfl, fun _ h => h, fun _ => .inl⟩

theorem mono (h : Confined places before after) (hsub : ∀ path, places path → others path) :
    Confined others before after := by
  refine ⟨h.tree, fun path hp => h.file path fun hm => hp (hsub path hm), h.kept, ?_⟩
  intro path hf
  exact (h.folder path hf).imp_right fun ⟨hne, place, hm, hw⟩ => ⟨hne, place, hsub place hm, hw⟩

theorem trans (first : Confined places before middle) (second : Confined places middle after) :
    Confined places before after := by
  refine ⟨second.tree ∘ first.tree, ?_, ?_, ?_⟩
  · exact fun path hp => (second.file path hp).trans (first.file path hp)
  · exact fun path hp => second.kept path (first.kept path hp)
  · intro path hf
    rcases second.folder path hf with hf | hf
    · exact first.folder path hf
    · exact .inr hf

end Confined

theorem around_of_mem_ancestors {path folder : String} (hp : Path.normalize path = path)
    (h : folder ∈ Path.ancestors path) :
    folder ≠ "" ∧ ∃ place, place = path ∧ Path.isWithin place folder = true := by
  obtain ⟨hne, -, hw⟩ := (Path.mem_ancestors_iff hp).mp h
  exact ⟨hne, path, rfl, hw⟩

theorem confined_withFile (vault : Vault) {path : String} (hclean : Path.Clean path) (text : String) :
    Confined (· = path) vault (vault.withFile path text) := by
  refine ⟨fun hv => hv.withFile hclean text, fun other hne => ?_, fun folder hf => ?_,
    fun folder hf => ?_⟩
  · rw [get?_withFile, if_neg hne]
  · rw [hasFolder_withFile]
    exact hasFolder_withParents_of _ hf
  · rw [hasFolder_withFile] at hf
    exact (mem_ancestors_of_withParents hf).symm.imp_right (around_of_mem_ancestors hclean.normal)

theorem confined_withoutFile (vault : Vault) (path : String) :
    Confined (· = path) vault (vault.withoutFile path) := by
  refine ⟨fun hv => hv.withoutFile, fun other hne => ?_, fun folder hf => ?_, fun folder hf => ?_⟩
  · rw [get?_withoutFile, if_neg hne]
  · rwa [hasFolder_withoutFile]
  · rw [hasFolder_withoutFile] at hf
    exact .inl hf

theorem confined_withFolder (vault : Vault) {path : String} (hclean : Path.Clean path)
    (hne : path ≠ "") : Confined (· = path) vault ((vault.withParents path).withFolder path) := by
  refine ⟨fun hv => hv.withFolder hclean hne, fun _ _ => ?_, fun folder hf => ?_, fun folder hf => ?_⟩
  · rw [files_withFolder, files_withParents]
  · exact hasFolder_withFolder.mpr (.inr (hasFolder_withParents_of _ hf))
  · rcases hasFolder_withFolder.mp hf with rfl | hf
    · exact .inr ⟨hne, _, rfl, Path.isWithin_self _⟩
    · exact (mem_ancestors_of_withParents hf).symm.imp_right (around_of_mem_ancestors hclean.normal)

-- A call changes nothing but its own places.
theorem confined_perform {α : Type} (vault : Vault) (call : Call α) :
    Confined (· ∈ call.places) vault (vault.perform call).2 := by
  cases call with
  | read path | list path | isPresent path =>
      rw [perform_question _ (by simp only [Call.IsQuestion])]
      exact .refl vault
  | write raw text mode =>
      rcases perform_write vault raw text mode with ⟨fault, h⟩ | ⟨hclean, h, -⟩
      · rw [h]
        exact .refl vault
      · rw [h]
        exact (vault.confined_withFile hclean text).mono fun _ => List.mem_singleton.mpr
  | delete raw =>
      rcases perform_delete vault raw with ⟨fault, h⟩ | ⟨h, -⟩
      · rw [h]
        exact .refl vault
      · rw [h]
        exact (vault.confined_withoutFile _).mono fun _ => List.mem_singleton.mpr
  | rename rawSource rawTarget =>
      rcases perform_rename vault rawSource rawTarget with ⟨fault, h⟩ | ⟨hclean, text, -, -, h⟩
      · rw [h]
        exact .refl vault
      · rw [h]
        refine ((vault.confined_withoutFile _).mono ?_).trans
          ((confined_withFile _ hclean text).mono ?_)
        · rintro path rfl
          exact List.mem_cons_self
        · rintro path rfl
          exact List.mem_cons_of_mem _ (List.mem_singleton_self _)
  | createFolder raw =>
      rcases perform_createFolder vault raw with ⟨fault, h⟩ | h | ⟨hclean, hne, h⟩
      · rw [h]
        exact .refl vault
      · rw [h]
        exact .refl vault
      · rw [h]
        exact (vault.confined_withFolder hclean hne).mono fun _ => List.mem_singleton.mpr

theorem confined_createFolder (vault : Vault) {path : String} (hclean : Path.Clean path) :
    Confined (· = path) vault (vault.perform (.createFolder path)).2 := by
  refine (vault.confined_perform (.createFolder path)).mono fun place hplace => ?_
  rw [List.mem_singleton.mp hplace, hclean.normal]

-- Making a folder changes no file, not even one of the same name.
theorem files_createFolder (vault : Vault) (raw : String) :
    (vault.perform (.createFolder raw)).2.files = vault.files := by
  rcases perform_createFolder vault raw with ⟨fault, h⟩ | h | ⟨-, -, h⟩
  · rw [h]
  · rw [h]
  · rw [h, files_withFolder, files_withParents]

end Vault

end NoteVault
