import Mathlib.Logic.Function.Basic
import NoteVault.Proofs.Storage.Roles

namespace NoteVault

-- What documents there are, by their paths.
abbrev Documents := String → Option String

namespace Vault

def documents (vault : Vault) : Documents :=
  vault.files.get?

variable (vault : Vault) (path text : String)

@[simp] theorem documents_withFile : (vault.withFile path text).documents =
    Function.update vault.documents path (some text) := by
  funext other
  rw [documents, get?_withFile, Function.update_apply]
  rfl

@[simp] theorem documents_withoutFile : (vault.withoutFile path).documents =
    Function.update vault.documents path none := by
  funext other
  rw [documents, get?_withoutFile, Function.update_apply]
  rfl

end Vault

-- What a call makes of the documents when it is done.
def Call.rebinds {α : Type} (documents : Documents) : Call α → Documents
  | .write raw text _ => Function.update documents (Path.normalize raw) (some text)
  | .delete raw => Function.update documents (Path.normalize raw) none
  | .rename source target =>
    Function.update (Function.update documents (Path.normalize source) none) (Path.normalize target)
      (documents (Path.normalize source))
  | .read _ | .createFolder _ | .list _ | .isPresent _ => documents

namespace Vault

-- The text that was last written of each document, as those know who see of a vault only
-- which calls it refuses. A text goes where its document is moved.
def lastWritten (vault : Vault) (documents : Documents) : List AnyCall → Documents
  | [] => documents
  | call :: rest =>
    lastWritten (vault.perform call.2).2
      (if (vault.perform call.2).1.isOk then call.2.rebinds documents else documents) rest

theorem documents_perform (vault : Vault) {α : Type} (call : Call α) :
    (vault.perform call).2.documents =
      if (vault.perform call).1.isOk then call.rebinds vault.documents else vault.documents := by
  cases call with
  | read raw | list raw | isPresent raw =>
      rw [perform_question _ (by simp only [Call.IsQuestion])]
      exact (ite_self _).symm
  | write raw text mode =>
      rcases vault.perform_write raw text mode with ⟨fault, hr⟩ | ⟨-, hr, -⟩
      · rw [hr]
        rfl
      · rw [hr]
        exact documents_withFile vault _ text
  | delete raw =>
      rcases vault.perform_delete raw with ⟨fault, hr⟩ | ⟨hr, -⟩
      · rw [hr]
        rfl
      · rw [hr]
        exact documents_withoutFile vault _
  | rename source target =>
      rcases vault.perform_rename source target with ⟨fault, hr⟩ | ⟨-, text, hget, -, hr⟩
      · rw [hr]
        rfl
      · have hsource : vault.documents (Path.normalize source) = some text := hget
        rw [hr]
        simp only [documents_withFile, documents_withoutFile, Call.rebinds, hsource]
        rfl
  | createFolder raw =>
      rcases vault.perform_createFolder raw with ⟨fault, hr⟩ | hr | ⟨-, -, hr⟩
      · rw [hr]
        rfl
      · rw [hr]
        rfl
      · rw [hr]
        funext path
        simp only [documents, files_withFolder, files_withParents]
        rfl

theorem lastWritten_documents (vault : Vault) (calls : List AnyCall) :
    vault.lastWritten vault.documents calls = (vault.after calls).documents := by
  induction calls generalizing vault with
  | nil => rfl
  | cons call rest ih =>
      rw [lastWritten, ← documents_perform, ih]
      rfl

end Vault

end NoteVault
