import NoteVault.Proofs.Storage.Effect
import NoteVault.Storage.Disk

namespace NoteVault

namespace Disk

-- Where a text stands before it is moved to its place.
def draftOf (path : String) : String :=
  Path.child (Path.parent path) (draftName (Path.fileName path))

-- Paths within the limits of a disk.
structure Fits (path : String) : Prop where
  usable : isUnusable path = false
  short : ∀ name ∈ names path, isLongName name = false

instance (path : String) : Decidable (Fits path) :=
  decidable_of_iff (isUnusable path = false ∧ ∀ name ∈ names path, isLongName name = false)
    ⟨fun h => ⟨h.1, h.2⟩, fun h => ⟨h.usable, h.short⟩⟩

end Disk

namespace Call

variable {α β : Type}

-- The paths that a call uses as documents.
def documents : Call α → List String
  | .read raw | .write raw .. | .delete raw => [Path.normalize raw]
  | .rename source target => [Path.normalize source, Path.normalize target]
  | .createFolder _ | .list _ | .isPresent _ => []

-- The paths that a call uses as folders: the folder it is about, and whatever lies
-- around a path that it names.
def folders (call : Call α) : List String :=
  let around := "" :: call.paths.flatMap fun raw => Path.ancestors (Path.normalize raw)
  match call with
  | .createFolder raw | .list raw => Path.normalize raw :: around
  | .read _ | .write .. | .delete _ | .rename .. | .isPresent _ => around

-- The documents and the folders that may be there by a call.
def puts : Call α → List String
  | .write raw .. | .rename _ raw => [Path.normalize raw]
  | .read _ | .delete _ | .createFolder _ | .list _ | .isPresent _ => []

def makes : Call α → List String
  | .write raw .. | .rename _ raw => Path.ancestors (Path.normalize raw)
  | .createFolder raw => Path.normalize raw :: Path.ancestors (Path.normalize raw)
  | .read _ | .delete _ | .list _ | .isPresent _ => []

def drafts : Call α → List String
  | .write raw .. => [Disk.draftOf (Path.normalize raw)]
  | .read _ | .delete _ | .rename .. | .createFolder _ | .list _ | .isPresent _ => []

-- No document of the one call is a folder of the other.
def Apart (left : Call α) (right : Call β) : Prop :=
  ∀ path ∈ left.documents, path ∉ right.folders

-- All that a disk has to name for a call is within its limits.
def Fits (call : Call α) : Prop :=
  ∀ path ∈ call.paths.map Path.normalize ++ call.drafts, Disk.Fits path

instance (left : Call α) (right : Call β) : Decidable (left.Apart right) :=
  inferInstanceAs (Decidable (∀ path ∈ left.documents, path ∉ right.folders))

instance (call : Call α) : Decidable call.Fits :=
  inferInstanceAs (Decidable (∀ path ∈ call.paths.map Path.normalize ++ call.drafts, Disk.Fits path))

theorem puts_subset_documents (call : Call α) : call.puts ⊆ call.documents := by
  cases call <;> simp [puts, documents]

theorem mem_folders_of_mem_ancestors {call : Call α} {raw folder : String} (hraw : raw ∈ call.paths)
    (h : folder ∈ Path.ancestors (Path.normalize raw)) : folder ∈ call.folders := by
  have haround : folder ∈ "" :: call.paths.flatMap fun raw => Path.ancestors (Path.normalize raw) :=
    List.mem_cons_of_mem _ (List.mem_flatMap.mpr ⟨raw, hraw, h⟩)
  cases call with
  | createFolder | list => exact List.mem_cons_of_mem _ haround
  | read | write | delete | rename | isPresent => exact haround

theorem makes_subset_folders (call : Call α) : call.makes ⊆ call.folders := by
  intro path hpath
  cases call with
  | read | delete | list | isPresent => cases hpath
  | write raw => exact mem_folders_of_mem_ancestors (List.mem_singleton_self raw) hpath
  | rename source target =>
      exact mem_folders_of_mem_ancestors (List.mem_cons_of_mem _ (List.mem_singleton_self target)) hpath
  | createFolder raw =>
      rcases List.mem_cons.mp hpath with hm | hm
      · exact List.mem_cons.mpr (.inl hm)
      · exact mem_folders_of_mem_ancestors (List.mem_singleton_self raw) hm

theorem empty_mem_folders (call : Call α) : "" ∈ call.folders := by
  cases call <;> simp [folders]

end Call

-- A call together with the type of its answer.
abbrev AnyCall := Σ α : Type, Call α

-- No path is used both as a document and as a folder.
def UsedOneWay (calls : List AnyCall) : Prop :=
  ∀ left ∈ calls, ∀ right ∈ calls, left.2.Apart right.2

def WithinLimits (calls : List AnyCall) : Prop :=
  ∀ call ∈ calls, call.2.Fits

theorem UsedOneWay.of_append {calls others : List AnyCall} (h : UsedOneWay (calls ++ others)) :
    UsedOneWay calls := fun left hleft right hright =>
  h left (List.mem_append_left _ hleft) right (List.mem_append_left _ hright)

theorem WithinLimits.of_append {calls others : List AnyCall} (h : WithinLimits (calls ++ others)) :
    WithinLimits calls := fun call hcall =>
  h call (List.mem_append_left _ hcall)

instance (calls : List AnyCall) : Decidable (UsedOneWay calls) :=
  inferInstanceAs (Decidable (∀ left ∈ calls, ∀ right ∈ calls, left.2.Apart right.2))

instance (calls : List AnyCall) : Decidable (WithinLimits calls) :=
  inferInstanceAs (Decidable (∀ call ∈ calls, call.2.Fits))

namespace Vault

variable {vault : Vault} {calls : List AnyCall} {α : Type}

-- What calls, made one after another, leave of a vault.
def after (vault : Vault) (calls : List AnyCall) : Vault :=
  calls.foldl (fun vault call => (vault.perform call.2).2) vault

-- Neither a document nor a folder is where the call needs a draft, if it is not refused.
def SparesDraft (vault : Vault) (call : Call α) : Prop :=
  (vault.perform call).1.isOk = true →
    ∀ path ∈ call.drafts, vault.hasFile path = false ∧ vault.hasFolder path = false

-- The same at the time of each of several calls that are made one after another.
def SparesDrafts (vault : Vault) : List AnyCall → Prop
  | [] => True
  | call :: rest => vault.SparesDraft call.2 ∧ SparesDrafts (vault.perform call.2).2 rest

instance (vault : Vault) (call : Call α) : Decidable (vault.SparesDraft call) :=
  inferInstanceAs (Decidable ((vault.perform call).1.isOk = true →
    ∀ path ∈ call.drafts, vault.hasFile path = false ∧ vault.hasFolder path = false))

instance decidableSparesDrafts (vault : Vault) :
    (calls : List AnyCall) → Decidable (vault.SparesDrafts calls)
  | [] => inferInstanceAs (Decidable True)
  | call :: rest =>
    have := decidableSparesDrafts (vault.perform call.2).2 rest
    inferInstanceAs (Decidable (vault.SparesDraft call.2 ∧ SparesDrafts _ rest))

theorem sparesDrafts_append (vault : Vault) (calls : List AnyCall) (call : AnyCall) :
    vault.SparesDrafts (calls ++ [call]) ↔
      vault.SparesDrafts calls ∧ (vault.after calls).SparesDraft call.2 := by
  induction calls generalizing vault with
  | nil => exact and_comm
  | cons first rest ih =>
      rw [List.cons_append, SparesDrafts, ih, SparesDrafts, and_assoc]
      rfl

-- Nothing is in a vault but by one of the calls.
structure MadeBy (calls : List AnyCall) (vault : Vault) : Prop where
  file : ∀ path, vault.hasFile path = true → ∃ call ∈ calls, path ∈ call.2.puts
  folder : ∀ path, vault.hasFolder path = true → ∃ call ∈ calls, path ∈ call.2.makes

namespace MadeBy

theorem empty : MadeBy [] Vault.empty :=
  ⟨fun _ h => absurd h Bool.false_ne_true, fun _ h => absurd h Bool.false_ne_true⟩

-- A call adds no more than the documents it puts and the folders it makes.
theorem perform (h : MadeBy calls vault) (call : Call α) :
    MadeBy (calls ++ [⟨α, call⟩]) (vault.perform call).2 := by
  suffices hown : (∀ path, (vault.perform call).2.hasFile path = true →
        path ∈ call.puts ∨ vault.hasFile path = true) ∧
      ∀ path, (vault.perform call).2.hasFolder path = true →
        path ∈ call.makes ∨ vault.hasFolder path = true by
    constructor
    · intro path hf
      rcases hown.1 path hf with hm | hf
      · exact ⟨_, List.mem_append_right _ (List.mem_singleton_self _), hm⟩
      · obtain ⟨other, hother, hm⟩ := h.file path hf
        exact ⟨other, List.mem_append_left _ hother, hm⟩
    · intro path hf
      rcases hown.2 path hf with hm | hf
      · exact ⟨_, List.mem_append_right _ (List.mem_singleton_self _), hm⟩
      · obtain ⟨other, hother, hm⟩ := h.folder path hf
        exact ⟨other, List.mem_append_left _ hother, hm⟩
  cases call with
  | read path | list path | isPresent path =>
      rw [perform_question _ (by simp only [Call.IsQuestion])]
      exact ⟨fun _ => .inr, fun _ => .inr⟩
  | write raw text mode =>
      rcases vault.perform_write raw text mode with ⟨fault, hr⟩ | ⟨-, hr, -⟩
      · rw [hr]
        exact ⟨fun _ => .inr, fun _ => .inr⟩
      · rw [hr]
        refine ⟨fun path hf => ?_, fun path hf => ?_⟩
        · exact ((hasFile_withFile text path).mp hf).imp_left List.mem_singleton.mpr
        · rw [hasFolder_withFile] at hf
          exact mem_ancestors_of_withParents hf
  | delete raw =>
      rcases vault.perform_delete raw with ⟨fault, hr⟩ | ⟨hr, -⟩
      · rw [hr]
        exact ⟨fun _ => .inr, fun _ => .inr⟩
      · rw [hr]
        exact ⟨fun path hf => .inr ((hasFile_withoutFile path).mp hf).2, fun _ => .inr⟩
  | rename source target =>
      rcases vault.perform_rename source target with ⟨fault, hr⟩ | ⟨-, text, -, -, hr⟩
      · rw [hr]
        exact ⟨fun _ => .inr, fun _ => .inr⟩
      · rw [hr]
        refine ⟨fun path hf => ?_, fun path hf => ?_⟩
        · rcases (hasFile_withFile text path).mp hf with hp | hf
          · exact .inl (List.mem_singleton.mpr hp)
          · exact .inr ((hasFile_withoutFile path).mp hf).2
        · rw [hasFolder_withFile] at hf
          exact (mem_ancestors_of_withParents hf).imp_right (hasFolder_withoutFile ▸ ·)
  | createFolder raw =>
      rcases vault.perform_createFolder raw with ⟨fault, hr⟩ | hr | ⟨-, -, hr⟩
      · rw [hr]
        exact ⟨fun _ => .inr, fun _ => .inr⟩
      · rw [hr]
        exact ⟨fun _ => .inr, fun _ => .inr⟩
      · rw [hr]
        refine ⟨fun path hf => .inr (by simpa [hasFile] using hf), fun path hf => ?_⟩
        rcases hasFolder_withFolder.mp hf with hp | hf
        · exact .inl (List.mem_cons.mpr (.inl hp))
        · exact (mem_ancestors_of_withParents hf).imp_left (List.mem_cons_of_mem _)

theorem after (calls : List AnyCall) : MadeBy calls (Vault.empty.after calls) := by
  induction calls using List.reverseRecOn with
  | nil => exact .empty
  | append_singleton calls call ih =>
      rw [Vault.after, List.foldl_append]
      exact ih.perform call.2

end MadeBy

-- A vault on which a call uses each path in the way it is used already.
structure Suits (vault : Vault) (call : Call α) : Prop where
  apart : ∀ path, vault.hasFile path = true → vault.hasFolder path = false
  document : ∀ path ∈ call.documents, path ≠ "" ∧ vault.hasFolder path = false
  folder : ∀ path ∈ call.folders, vault.hasFile path = false
  draft : vault.SparesDraft call

-- Calls that use no path in two ways meet a vault that suits each of them.
theorem MadeBy.suits {call : Call α} (h : MadeBy calls vault)
    (honeWay : UsedOneWay (calls ++ [⟨α, call⟩])) (hdraft : vault.SparesDraft call) :
    vault.Suits call := by
  have hown : (⟨α, call⟩ : AnyCall) ∈ calls ++ [⟨α, call⟩] :=
    List.mem_append_right _ (List.mem_singleton_self _)
  have hearlier : ∀ other ∈ calls, other ∈ calls ++ [⟨α, call⟩] := fun _ =>
    List.mem_append_left _
  refine ⟨fun path hfile => ?_, fun path hdocument => ?_, fun path hfolder => ?_, hdraft⟩
  · obtain ⟨left, hleft, hput⟩ := h.file path hfile
    refine Bool.eq_false_iff.mpr fun hfolder => ?_
    obtain ⟨right, hright, hmade⟩ := h.folder path hfolder
    exact honeWay left (hearlier left hleft) right (hearlier right hright) path
      (left.2.puts_subset_documents hput) (right.2.makes_subset_folders hmade)
  · refine ⟨?_, Bool.eq_false_iff.mpr fun hfolder => ?_⟩
    · rintro rfl
      exact honeWay _ hown _ hown _ hdocument call.empty_mem_folders
    · obtain ⟨right, hright, hmade⟩ := h.folder path hfolder
      exact honeWay _ hown right (hearlier right hright) path hdocument
        (right.2.makes_subset_folders hmade)
  · refine Bool.eq_false_iff.mpr fun hfile => ?_
    obtain ⟨left, hleft, hput⟩ := h.file path hfile
    exact honeWay left (hearlier left hleft) _ hown path (left.2.puts_subset_documents hput) hfolder

end Vault

end NoteVault
