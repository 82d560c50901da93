import NoteVault.KnowledgeBase.Record
import NoteVault.Proofs.Path.Segments

namespace NoteVault.KnowledgeBase

variable {name text : String} {base : KnowledgeBase}

-- A name that passes the check is one clean segment of a path.
theorem isName_of_checkName (h : checkName name = .ok ()) :
    Path.IsName name.toList ∧ name.toList ≠ ['.', '.'] := by
  simp only [checkName] at h
  split at h
  · cases h
  · rename_i hblank
    split at h
    · cases h
    · rename_i hleaves
      simp only [leavesFolder, Bool.or_eq_true, beq_iff_eq, List.contains_iff_mem, not_or] at hleaves
      obtain ⟨⟨⟨hhead, hslash⟩, -⟩, -⟩ := hleaves
      refine ⟨⟨fun he => ?_, fun he => ?_, hslash⟩, fun he => ?_⟩
      · simp [Text.isAllBlank, he] at hblank
      · simp [he] at hhead
      · simp [he] at hhead

theorem requiredText_eq_ok {owner key found : String} {fields : Keyed Json.Value}
    (h : requiredText owner key fields = .ok found) :
    Keyed.get? key fields = some (.string found) := by
  unfold requiredText at h
  split at h
  · rename_i hget
    obtain rfl := Except.ok.inj h
    exact hget
  · cases h

theorem subfolderOf_eq_ok {fields : Keyed Json.Value} {folder : String}
    (h : subfolderOf name fields = .ok folder) :
    ∃ raw, Keyed.get? "subfolder" fields = some (.string raw) ∧ folder = Path.normalize raw ∧
      folder ≠ "" := by
  unfold subfolderOf at h
  cases hr : requiredText name "subfolder" fields with
  | error fault => rw [hr] at h; cases h
  | ok raw =>
      rw [hr] at h
      simp only [bind, Except.bind] at h
      split at h
      · cases h
      · rename_i hne
        obtain rfl := Except.ok.inj h
        exact ⟨raw, requiredText_eq_ok hr, rfl, by simpa using hne⟩

theorem ofRecord_eq_ok (h : ofRecord name text = .ok base) :
    ∃ createTime subfolder, createTimeOf name (FrontMatter.Note.ofText text).fields = .ok createTime ∧
      subfolderOf name (FrontMatter.Note.ofText text).fields = .ok subfolder ∧
      base = ⟨name, createTime, optionalText "description" (FrontMatter.Note.ofText text).fields,
        subfolder, Text.trimmed (FrontMatter.Note.ofText text).body⟩ := by
  unfold ofRecord at h
  cases hc : createTimeOf name (FrontMatter.Note.ofText text).fields with
  | error fault =>
      simp only [bind, Except.bind, hc] at h
      cases h
  | ok createTime =>
      cases hs : subfolderOf name (FrontMatter.Note.ofText text).fields with
      | error fault =>
          simp only [bind, Except.bind, hc, hs] at h
          cases h
      | ok subfolder =>
          simp only [bind, Except.bind, hc, hs] at h
          exact ⟨createTime, subfolder, rfl, rfl, (Except.ok.inj h).symm⟩

-- A record is read under the name it is asked for.
theorem name_of_ofRecord (h : ofRecord name text = .ok base) : base.name = name := by
  obtain ⟨createTime, subfolder, -, -, rfl⟩ := ofRecord_eq_ok h
  rfl

-- The subfolder is what the header says of it, in normal form. It may climb.
theorem subfolder_of_header (h : ofRecord name text = .ok base) :
    ∃ raw, Keyed.get? "subfolder" (FrontMatter.Note.ofText text).fields = some (.string raw) ∧
      base.subfolder = Path.normalize raw ∧ base.subfolder ≠ "" := by
  obtain ⟨createTime, subfolder, -, hs, rfl⟩ := ofRecord_eq_ok h
  exact subfolderOf_eq_ok hs

theorem subfolder_of_ofRecord (h : ofRecord name text = .ok base) :
    Path.normalize base.subfolder = base.subfolder ∧ base.subfolder ≠ "" := by
  obtain ⟨raw, -, hnormal, hne⟩ := subfolder_of_header h
  exact ⟨hnormal ▸ Path.normalize_normalize raw, hne⟩

end NoteVault.KnowledgeBase
