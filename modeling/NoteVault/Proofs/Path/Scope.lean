import NoteVault.Path.Scope
import NoteVault.Proofs.Path.Containment

namespace NoteVault.Path

theorem ofParts_append_last (names : List (List Char)) (last ending : List Char) :
    ofParts (names ++ [last]) ++ String.ofList ending = ofParts (names ++ [last ++ ending]) := by
  by_cases hne : names = []
  · simp [hne, ofParts, Text.joinWith]
  · simp only [ofParts, Text.joinWith_append hne (List.cons_ne_nil _ _), Text.joinWith]
    apply String.toList_inj.mp
    simp

-- An ending makes the last name of a normal path longer and keeps the others.
theorem append_segments {path : String} (hp : normalize path = path) (hne : path ≠ "")
    {ending : List Char} (hslash : '/' ∉ ending) (hlong : 2 ≤ ending.length) :
    normalize (path ++ String.ofList ending) = path ++ String.ofList ending ∧
      ∃ last ≠ [], segments (path ++ String.ofList ending) =
        (segments path).dropLast ++ [last ++ ending] := by
  have hs := segments_ne_nil hp hne
  have hlast := isName_of_mem_segments (List.getLast_mem hs)
  have hpath : path = ofParts ((segments path).dropLast ++ [(segments path).getLast hs]) := by
    rw [List.dropLast_append_getLast hs]
    exact hp.symm
  have hname : ∀ part ∈ (segments path).dropLast ++ [(segments path).getLast hs ++ ending],
      IsName part := by
    intro part hm
    rcases List.mem_append.mp hm with hm | hm
    · exact isName_of_mem_dropLast part hm
    · rw [List.mem_singleton] at hm
      subst hm
      refine ⟨by simp [hlast.1], fun h => ?_, by simp [hlast.2.2, hslash]⟩
      have hl := congrArg List.length h
      simp only [List.length_append, List.length_singleton] at hl
      omega
  have hext : path ++ String.ofList ending =
      ofParts ((segments path).dropLast ++ [(segments path).getLast hs ++ ending]) := by
    conv => lhs; rw [hpath, ofParts_append_last]
  rw [hext]
  exact ⟨normalize_ofParts hname, _, hlast.1, segments_ofParts hname⟩

-- It makes no way up either.
theorem hasTraversal_of_append {path : String} (hp : normalize path = path) (hne : path ≠ "")
    {ending : List Char} (hslash : '/' ∉ ending) (hlong : 2 ≤ ending.length)
    (h : hasTraversal (path ++ String.ofList ending) = true) : hasTraversal path = true := by
  obtain ⟨-, last, hlast, hsegs⟩ := append_segments hp hne hslash hlong
  rw [hasTraversal_iff, hsegs, List.mem_append, List.mem_singleton] at h
  rw [hasTraversal_iff]
  refine List.dropLast_subset _ (h.resolve_right fun h => ?_)
  have hpos := List.length_pos_of_ne_nil hlast
  have hl := congrArg List.length h
  simp only [List.length_append, List.length_cons, List.length_nil] at hl
  omega

end NoteVault.Path

namespace NoteVault

theorem Path.folder_eq_ok {raw path : String} (h : Path.folder raw = .ok path) :
    path = Path.normalize raw ∧ Path.Clean path ∧ path ≠ "" := by
  simp only [Path.folder] at h
  split at h
  · cases h
  · rename_i ht
    split at h
    · cases h
    · rename_i hne
      obtain rfl := Except.ok.inj h
      exact ⟨rfl, ⟨Path.normalize_normalize raw, by simpa using ht⟩, by simpa using hne⟩

namespace KnowledgeBase

variable {base : KnowledgeBase} {raw path : String}

theorem resolve_eq_ok (h : base.resolve raw = .ok path) :
    Path.normalize path = path ∧ Path.isWithin path base.subfolder = true ∧
      Path.hasTraversal (Path.normalize raw) = false ∧
      path = Path.normalize (base.inScope (Path.normalize raw)) := by
  simp only [resolve] at h
  split at h
  · cases h
  · rename_i ht
    split at h
    · rename_i hw
      obtain rfl := Except.ok.inj h
      exact ⟨Path.normalize_normalize _, hw, by simpa using ht, rfl⟩
    · cases h

-- A path without a way up takes none but that of the subfolder.
theorem hasTraversal_inScope {relative : String} (hr : Path.hasTraversal relative = false) :
    Path.hasTraversal (base.inScope relative) = Path.hasTraversal base.subfolder := by
  simp only [inScope]
  split
  · rename_i hw
    refine hr.trans (Bool.eq_false_iff.mpr fun hb => ?_).symm
    rw [Path.hasTraversal_iff] at hb
    rw [Bool.eq_false_iff, ne_eq, Path.hasTraversal_iff] at hr
    exact hr ((Path.segments_prefix_of_isWithin hw).subset hb)
  · split
    · rfl
    · rw [Bool.eq_false_iff, ne_eq, Path.hasTraversal_iff] at hr
      rw [Bool.eq_iff_iff, Path.hasTraversal_iff, Path.hasTraversal_iff, Path.segments_below,
        List.mem_append, or_iff_left hr]

theorem hasTraversal_of_resolve (h : base.resolve raw = .ok path) :
    Path.hasTraversal path = Path.hasTraversal base.subfolder := by
  obtain ⟨-, -, hr, rfl⟩ := resolve_eq_ok h
  exact (Path.hasTraversal_normalize _).trans (hasTraversal_inScope hr)

-- Only a subfolder with a way up could lead out of the vault.
theorem clean_of_resolve (hb : Path.hasTraversal base.subfolder = false)
    (h : base.resolve raw = .ok path) : Path.Clean path :=
  ⟨(resolve_eq_ok h).1, (hasTraversal_of_resolve h).trans hb⟩

theorem resolveNote_eq (base : KnowledgeBase) (raw : String) :
    base.resolveNote raw =
      match base.resolve raw with
      | .error fault => .error fault
      | .ok resolved =>
        if resolved = base.subfolder then .error (.namesNoNote raw)
        else .ok (if Path.isNote resolved then resolved else resolved ++ Path.noteExtension) := by
  unfold resolveNote
  cases base.resolve raw with
  | error fault => rfl
  | ok resolved =>
      simp only [bind, Except.bind]
      split <;> rfl

theorem resolveNote_eq_ok (h : base.resolveNote raw = .ok path) :
    ∃ resolved, base.resolve raw = .ok resolved ∧ resolved ≠ base.subfolder ∧
      (path = resolved ∨ path = resolved ++ Path.noteExtension) := by
  rw [resolveNote_eq] at h
  split at h
  · cases h
  · rename_i resolved hr
    split at h
    · cases h
    · rename_i hne
      refine ⟨resolved, hr, hne, ?_⟩
      obtain rfl := Except.ok.inj h
      split
      · exact .inl rfl
      · exact .inr rfl

-- A note lies strictly below its knowledge base's subfolder.
theorem below_of_resolveNote (h : base.resolveNote raw = .ok path) :
    ∃ rest, path = Path.below base.subfolder rest := by
  obtain ⟨resolved, hr, hne, hp⟩ := resolveNote_eq_ok h
  obtain ⟨-, hw, -⟩ := resolve_eq_ok hr
  obtain ⟨rest, rfl⟩ := ((Path.isWithin_iff _ _).mp hw).resolve_left hne
  rcases hp with rfl | rfl
  · exact ⟨rest, rfl⟩
  · exact ⟨rest ++ Path.noteExtension, by simp [Path.below, String.append_assoc]⟩

-- Its name ends like that of a note.
theorem isNote_of_resolveNote (h : base.resolveNote raw = .ok path) : Path.isNote path = true := by
  rw [resolveNote_eq] at h
  split at h
  · cases h
  · split at h
    · cases h
    · obtain rfl := Except.ok.inj h
      split
      · assumption
      · rw [Path.isNote, List.isSuffixOf_iff_suffix, String.toList_append]
        exact List.suffix_append _ _

theorem ne_empty_of_resolve {resolved : String} (hr : base.resolve raw = .ok resolved)
    (hne : resolved ≠ base.subfolder) : resolved ≠ "" := by
  obtain ⟨rest, rfl⟩ := ((Path.isWithin_iff _ _).mp (resolve_eq_ok hr).2.1).resolve_left hne
  exact Path.below_ne_empty _ _

theorem normalize_of_resolveNote (h : base.resolveNote raw = .ok path) :
    Path.normalize path = path := by
  obtain ⟨resolved, hr, hne, hp⟩ := resolveNote_eq_ok h
  have hnorm := (resolve_eq_ok hr).1
  rcases hp with rfl | rfl
  · exact hnorm
  · exact (Path.append_segments hnorm (ne_empty_of_resolve hr hne) (by decide) (by decide)).1

theorem hasTraversal_of_resolveNote (h : base.resolveNote raw = .ok path) :
    Path.hasTraversal path = Path.hasTraversal base.subfolder := by
  obtain ⟨resolved, hr, hne, hp⟩ := resolveNote_eq_ok h
  rw [← hasTraversal_of_resolve hr]
  rcases hp with rfl | rfl
  · rfl
  · refine Bool.eq_iff_iff.mpr ⟨Path.hasTraversal_of_append (resolve_eq_ok hr).1
      (ne_empty_of_resolve hr hne) (by decide) (by decide), fun hup => ?_⟩
    obtain ⟨rest, hrest⟩ := below_of_resolveNote h
    rw [hasTraversal_of_resolve hr, Path.hasTraversal_iff] at hup
    rw [Path.hasTraversal_iff, hrest, Path.segments_below]
    exact List.mem_append_left _ hup

theorem clean_of_resolveNote (hb : Path.hasTraversal base.subfolder = false)
    (h : base.resolveNote raw = .ok path) : Path.Clean path :=
  ⟨normalize_of_resolveNote h, (hasTraversal_of_resolveNote h).trans hb⟩

end KnowledgeBase

end NoteVault
