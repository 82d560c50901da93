import NoteVault.Notes
import NoteVault.Proofs.Registry.Confinement

namespace NoteVault

open Registry Session

-- The folder of the constraints of a knowledge base.
def constraintsPlace (root name : String) : String :=
  Path.below (Path.below root name) "folder_constraints"

namespace Vault

-- The documents beside each other in which constraints are looked for.
def documentsOf (vault : Vault) (root name : String) : List String :=
  (vault.listing (constraintsPlace root name)).files.filter Path.isNote

-- The constraints that are found in them.
def constraintsOf (vault : Vault) (root name : String) : List Constraint :=
  (vault.documentsOf root name).filterMap (vault.constraintAt? name)

end Vault

variable {σ : Type} {policy : Policy σ} {clock : σ → Time.Instant × σ} {root name path : String}
  {vault : Vault}

theorem clean_constraintsPlace (hroot : Path.Clean root) (hne : root ≠ "")
    (hname : KnowledgeBase.checkName name = .ok ()) : Path.Clean (constraintsPlace root name) :=
  (clean_folder_of_checkName hroot hne hname).below ⟨by decide, by decide⟩
    (Path.below_ne_empty _ _) (by decide)

theorem constraintsPlace_ne_empty (root name : String) : constraintsPlace root name ≠ "" :=
  Path.below_ne_empty _ _

theorem constraintFolder_inMemory (hroot : Path.normalize root = root) :
    (inMemory policy clock root).constraintFolder name = constraintsPlace root name := by
  rw [constraintFolder, folder, root_inMemory, hroot, constraintsPlace]

theorem clean_constraintFolder (hroot : Path.Clean root) (hne : root ≠ "")
    (hname : KnowledgeBase.checkName name = .ok ()) :
    Path.Clean ((inMemory policy clock root).constraintFolder name) :=
  constraintFolder_inMemory hroot.normal ▸ clean_constraintsPlace hroot hne hname

theorem Vault.mem_documentsOf : path ∈ vault.documentsOf root name ↔ vault.hasFile path = true ∧
    Path.parent path = constraintsPlace root name ∧ Path.isNote path = true := by
  simp only [documentsOf, listing, childrenOf, List.mem_filter, SortedMap.mem_keys, beq_iff_eq,
    and_assoc, hasFile]

theorem Vault.IsTree.clean_of_mem_documentsOf (hv : vault.IsTree)
    (h : path ∈ vault.documentsOf root name) : Path.Clean path :=
  hv.file_clean path (mem_documentsOf.mp h).1

theorem Vault.constraintAt?_of_clean (h : Path.Clean path) (name : String) :
    vault.constraintAt? name path =
      (vault.files.get? path).bind fun text => (Constraint.ofDocument name text).toOption := by
  rw [constraintAt?, perform_of_clean (by simpa [Call.paths] using h), answer]
  cases vault.files.get? path <;> rfl

theorem Vault.constraintAt?_eq_some {constraint : Constraint} (h : Path.Clean path) :
    vault.constraintAt? name path = some constraint ↔ ∃ text, vault.files.get? path = some text ∧
      Constraint.ofDocument name text = .ok constraint := by
  rw [constraintAt?_of_clean h, Option.bind_eq_some_iff]
  refine exists_congr fun text => and_congr_right fun _ => ?_
  cases Constraint.ofDocument name text with
  | ok found => simp [Except.toOption]
  | error fault => simp [Except.toOption]

end NoteVault
