import NoteVault.Proofs.KnowledgeBase.RoundTrip
import NoteVault.Proofs.Path.Containment

namespace NoteVault

-- Line ends become blanks, and nothing else does.
theorem blanked_eq_iff {mark : Char} (hmark : mark ≠ ' ' ∧ mark ≠ '\n' ∧ mark ≠ '\r') (char : Char) :
    (if char = '\n' ∨ char = '\r' then ' ' else char) = mark ↔ char = mark := by
  split
  · rename_i hbreak
    refine iff_of_false hmark.1.symm ?_
    rintro rfl
    exact hbreak.elim hmark.2.1 hmark.2.2
  · rfl

-- Line ends are no part of how a path is read.
theorem normalize_singleLine (path : String) :
    Path.normalize (singleLine path) = singleLine (Path.normalize path) :=
  Path.normalize_map (blanked_eq_iff (by decide)) (blanked_eq_iff (by decide)) path

theorem hasTraversal_singleLine (path : String) :
    Path.hasTraversal (singleLine path) = Path.hasTraversal path :=
  Path.hasTraversal_map (blanked_eq_iff (by decide)) (blanked_eq_iff (by decide)) path

theorem singleLine_eq_empty_iff (text : String) : singleLine text = "" ↔ text = "" := by
  rw [← String.toList_inj, ← String.toList_inj, singleLine, String.toList_ofList]
  exact List.map_eq_nil_iff

theorem prefix_of_prefix_singleLine {front chars : List Char} (hspace : ' ' ∉ front)
    (h : front <+: (singleLine (String.ofList chars)).toList) : front <+: chars := by
  simp only [singleLine, String.toList_ofList] at h
  induction front generalizing chars with
  | nil => exact List.nil_prefix
  | cons first front ih =>
      rw [List.mem_cons, not_or] at hspace
      cases chars with
      | nil => exact absurd (List.prefix_nil.mp h) (List.cons_ne_nil _ _)
      | cons char chars =>
          rw [List.map_cons, List.cons_prefix_cons] at h
          have hsame : first = char := by
            have hfirst := h.1
            split at hfirst
            · exact absurd hfirst.symm hspace.1
            · exact hfirst
          exact List.cons_prefix_cons.mpr ⟨hsame, ih hspace.2 h.2⟩

-- Without blanks in it, the written form of a text is the text.
theorem singleLine_eq_of_space_notMem {text : String} (h : ' ' ∉ (singleLine text).toList) :
    singleLine text = text := by
  refine singleLine_eq fun char hc => ?_
  refine not_or.mp fun hbreak => h ?_
  rw [singleLine, String.toList_ofList]
  exact List.mem_map.mpr ⟨char, hc, if_pos hbreak⟩

-- A folder that is away from the records is away from them as its record shows it, unless
-- a blank for a line end makes it one of theirs.
theorem overlap_singleLine {folder root : String} (h : Path.overlap folder root = false)
    (hline : ' ' ∉ root.toList ∨ IsSingleLine folder) :
    Path.overlap (singleLine folder) root = false := by
  rcases hline with hspace | hline
  · rw [Bool.eq_false_iff]
    intro hoverlap
    have hsame : ' ' ∉ (singleLine folder).toList → False := by
      intro hfolder
      rw [singleLine_eq_of_space_notMem hfolder, h] at hoverlap
      cases hoverlap
    simp only [Path.overlap, Bool.or_eq_true, Path.isWithin_iff] at hoverlap
    rcases hoverlap with (hroot | ⟨rest, hrest⟩) | hroot | ⟨rest, hrest⟩
    · exact hsame (hroot ▸ hspace)
    · have hprefix : root.toList ++ ['/'] <+: folder.toList := by
        refine prefix_of_prefix_singleLine ?_ ?_
        · simpa using hspace
        · rw [String.ofList_toList, hrest]
          simp [Path.below]
      have hwithin : Path.isWithin folder root = true := by
        rw [Path.isWithin, List.isPrefixOf_iff_prefix.mpr hprefix, Bool.or_true]
      rw [Path.overlap, hwithin, Bool.true_or] at h
      cases h
    · exact hsame (hroot ▸ hspace)
    · refine hsame fun hm => hspace ?_
      rw [hrest, Path.below, String.toList_append, String.toList_append]
      exact List.mem_append_left _ (List.mem_append_left _ hm)
  · rw [singleLine_eq hline, h]

namespace KnowledgeBase

variable {base : KnowledgeBase}

-- Whatever is read of a record that was written, its subfolder is the one that the
-- record was written with, but for line ends.
theorem subfolder_of_ofRecord_record {name : String} {read : KnowledgeBase}
    (h : ofRecord name base.record = .ok read) :
    read.subfolder = Path.normalize (singleLine base.subfolder) := by
  obtain ⟨raw, hget, hnormal, -⟩ := subfolder_of_header h
  rw [ofText_record, Keyed.get?_insert, if_pos rfl, Option.some.injEq, Json.Value.string.injEq] at hget
  rw [hnormal, hget]

-- Every knowledge base of a year with four digits and a subfolder that names
-- something comes back from its record, whatever its texts hold.
theorem ofRecord_roundTrip (hvalid : base.createTime.isValid = true)
    (hyear : 0 ≤ base.createTime.date.year ∧ base.createTime.date.year ≤ 9999)
    (hfolder : Path.normalize base.subfolder ≠ "") :
    ofRecord base.name base.record =
      .ok ⟨base.name, base.createTime, singleLine base.description,
        Path.normalize (singleLine base.subfolder), Text.trimmed base.organizationRules⟩ := by
  have htime := Time.Instant.ofText?_text hvalid hyear
  refine ofRecord_record htime ?_
  rw [normalize_singleLine]
  exact fun hempty => hfolder ((singleLine_eq_empty_iff _).mp hempty)

-- Quotes, colons, delimiters, fences and line ends in every text.
theorem ofRecord_roundTrip_marks :
    let base : KnowledgeBase := ⟨"team", ⟨⟨2024, 2, 29⟩, 23, 59, 60, 5⟩,
      " \"---\": # [a]\r\nb ", "/docs//a\nb/./", "\n---\n```yaml\n"⟩
    base.createTime.isValid = true ∧
      (0 ≤ base.createTime.date.year ∧ base.createTime.date.year ≤ 9999) ∧
      Path.normalize base.subfolder ≠ "" ∧
      ofRecord "team" base.record =
        .ok ⟨"team", base.createTime, " \"---\": # [a]  b ", "docs/a b", "---\n```yaml"⟩ := by
  intro base
  have hvalid : base.createTime.isValid = true := by decide
  have hyear : 0 ≤ base.createTime.date.year ∧ base.createTime.date.year ≤ 9999 := by decide
  have hfolder : Path.normalize base.subfolder ≠ "" := by decide
  have hdescription : singleLine base.description = " \"---\": # [a]  b " := by decide
  have hsubfolder : Path.normalize (singleLine base.subfolder) = "docs/a b" := by decide
  have hrules : Text.trimmed base.organizationRules = "---\n```yaml" := by decide
  refine ⟨hvalid, hyear, hfolder, ?_⟩
  have hread := ofRecord_roundTrip hvalid hyear hfolder
  rw [hdescription, hsubfolder, hrules] at hread
  exact hread

end KnowledgeBase

end NoteVault
