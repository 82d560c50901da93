import NoteVault.Proofs.KnowledgeBase.Record
import NoteVault.Proofs.Path.Scope
import NoteVault.Proofs.Storage.Effect

namespace NoteVault

-- A call on a path with a way up is refused.
theorem Vault.perform_of_hasTraversal (vault : Vault) {α : Type} {call : Call α} {path : String}
    (hpath : path ∈ call.paths) (hup : Path.hasTraversal path = true) :
    ∃ fault, vault.perform call = (.error fault, vault) := by
  refine (vault.perform_normalized call).resolve_right fun hdone => ?_
  have hstays := (hdone.1 path hpath).stays
  rw [Path.hasTraversal_normalize, hup] at hstays
  cases hstays

namespace KnowledgeBase

variable {name text : String} {base : KnowledgeBase}

-- The subfolder of a record names something and is in normal form, but the way up that its
-- header may have is kept, and it is the only one: paths of the knowledge base climb exactly
-- when the header does. No call on a path that climbs reaches the vault.
theorem climbs_as_header (h : ofRecord name text = .ok base) :
    ∃ written, Keyed.get? "subfolder" (FrontMatter.Note.ofText text).fields = some (.string written) ∧
      base.subfolder = Path.normalize written ∧ base.subfolder ≠ "" ∧
      Path.hasTraversal base.subfolder = Path.hasTraversal written ∧
      ∀ raw path, base.resolve raw = .ok path ∨ base.resolveNote raw = .ok path →
        Path.hasTraversal path = Path.hasTraversal written ∧
        (Path.hasTraversal written = true → ∀ (vault : Vault) (α : Type) (call : Call α),
          path ∈ call.paths → ∃ fault, vault.perform call = (.error fault, vault)) := by
  obtain ⟨written, hget, hnormal, hne⟩ := subfolder_of_header h
  have hsame : Path.hasTraversal base.subfolder = Path.hasTraversal written := by
    rw [hnormal, Path.hasTraversal_normalize]
  refine ⟨written, hget, hnormal, hne, hsame, fun raw path hpath => ?_⟩
  have hup : Path.hasTraversal path = Path.hasTraversal written :=
    (hpath.elim hasTraversal_of_resolve hasTraversal_of_resolveNote).trans hsame
  exact ⟨hup, fun hclimbs vault _ call hin =>
    vault.perform_of_hasTraversal hin (hup.trans hclimbs)⟩

-- A record by hand with slashes to spare, and what it makes of a path.
theorem climbs_as_header_by_hand :
    let text := "---\r\nsubfolder: ./team//notes/\r\ncreate_time: 2024-05-17T08:30:00+02:00\r\n---\r\n"
    let base : KnowledgeBase := ⟨"team", ⟨⟨2024, 5, 17⟩, 6, 30, 0, 0⟩, "", "team/notes", ""⟩
    ofRecord "team" text = .ok base ∧ base.resolve "plan" = .ok "team/notes/plan" ∧
      Path.hasTraversal "team/notes/plan" = false := by
  intro text base
  have hread : ofRecord "team" text = .ok base := by decide +kernel
  have hpath : base.resolve "plan" = .ok "team/notes/plan" := by decide
  obtain ⟨written, hget, -, -, -, hclimbs⟩ := climbs_as_header hread
  have hwritten : Keyed.get? "subfolder" (FrontMatter.Note.ofText text).fields =
      some (.string "./team//notes/") := by decide +kernel
  obtain rfl := Json.Value.string.inj (Option.some.inj (hget.symm.trans hwritten))
  exact ⟨hread, hpath, (hclimbs "plan" _ (.inl hpath)).1.trans (by decide)⟩

-- A record may lead out of the vault.
theorem ofRecord_admits_climbing :
    let text := "---\ncreate_time: \"2024-05-17T08:30:00Z\"\nsubfolder: \"../secrets\"\n---\n"
    let base : KnowledgeBase := .mk "team" ⟨⟨2024, 5, 17⟩, 8, 30, 0, 0⟩ "" "../secrets" ""
    ofRecord "team" text = .ok base ∧ Path.hasTraversal base.subfolder = true ∧
      base.resolveNote "plan" = .ok "../secrets/plan.md" := by
  intro text base
  exact ⟨by decide +kernel, by decide, by decide⟩

end KnowledgeBase

end NoteVault
