import NoteVault.Proofs.KnowledgeBase.RoundTrip
import NoteVault.Proofs.Path.Scope

namespace NoteVault.KnowledgeBase

variable {base : KnowledgeBase} {raw path relative : String}

section

variable (hnormal : Path.normalize base.subfolder = base.subfolder) (hne : base.subfolder ≠ "")
include hnormal hne

-- What a path in normal form means is in normal form and in the subfolder.
theorem normalize_inScope (hr : Path.normalize relative = relative) :
    Path.normalize (base.inScope relative) = base.inScope relative ∧
      Path.isWithin (base.inScope relative) base.subfolder = true := by
  simp only [inScope]
  split
  · rename_i hw
    exact ⟨hr, hw⟩
  · split
    · exact ⟨hnormal, Path.isWithin_self _⟩
    · rename_i hempty
      rw [Bool.not_eq_true, String.isEmpty_eq_false_iff] at hempty
      exact ⟨Path.normalize_below hnormal hr hne hempty, Path.isWithin_below _ _⟩

-- A subfolder in normal form leaves a way up as the only ground for a refusal.
theorem resolve_eq (raw : String) :
    base.resolve raw = if Path.hasTraversal raw then .error (.climbs raw)
      else .ok (base.inScope (Path.normalize raw)) := by
  obtain ⟨hscope, hw⟩ := normalize_inScope hnormal hne (Path.normalize_normalize raw)
  simp only [resolve, Path.hasTraversal_normalize, hscope, hw, if_true]

theorem resolve_eq_error_iff {fault : PathFault} :
    base.resolve raw = .error fault ↔ Path.hasTraversal raw = true ∧ fault = .climbs raw := by
  rw [resolve_eq hnormal hne]
  split
  · rename_i ht
    rw [Except.error.injEq, eq_comm (a := PathFault.climbs raw)]
    exact (and_iff_right ht).symm
  · rename_i ht
    exact ⟨fun h => (nomatch h), fun h => absurd h.1 ht⟩

end

-- A clean path in the subfolder is taken as it is.
theorem resolve_of_within (hp : Path.Clean path) (hw : Path.isWithin path base.subfolder = true) :
    base.resolve path = .ok path := by
  simp only [resolve, inScope, hp.normal, hp.stays, hw, if_true, Bool.false_eq_true, if_false]

-- So is the place of a note.
theorem resolveNote_of_note (hp : Path.Clean path) (hw : Path.isWithin path base.subfolder = true)
    (hbelow : path ≠ base.subfolder) (hnote : Path.isNote path = true) :
    base.resolveNote path = .ok path := by
  simp only [resolveNote_eq, resolve_of_within hp hw, if_neg hbelow, if_pos hnote]

theorem resolveNote_eq_error_iff : (∃ fault, base.resolveNote raw = .error fault) ↔
    (∃ fault, base.resolve raw = .error fault) ∨ base.resolve raw = .ok base.subfolder := by
  rw [resolveNote_eq]
  cases base.resolve raw with
  | error fault => simp
  | ok resolved =>
      by_cases hsame : resolved = base.subfolder
      · simp [hsame]
      · simp [hsame]

-- Where a path leads in a knowledge base: to a clean path in the subfolder that leads to
-- itself. What lies there already in normal form is kept, and the rest is put below.
structure Places (base : KnowledgeBase) (raw path : String) : Prop where
  clean : Path.Clean path
  within : Path.isWithin path base.subfolder = true
  itself : base.resolve path = .ok path
  kept : Path.isWithin (Path.normalize raw) base.subfolder = true → path = Path.normalize raw
  moved : Path.isWithin (Path.normalize raw) base.subfolder = false →
    path = if Path.normalize raw = "" then base.subfolder
      else Path.below base.subfolder (Path.normalize raw)

-- The place of a note in a knowledge base: strictly below the subfolder, and found there
-- again by its own path.
structure PlacesNote (base : KnowledgeBase) (path : String) : Prop where
  note : Path.isNote path = true
  within : Path.isWithin path base.subfolder = true
  below : path ≠ base.subfolder
  itself : base.resolve path = .ok path
  again : base.resolveNote path = .ok path

section

variable (hclean : Path.Clean base.subfolder)
include hclean

theorem places_of_resolve (hne : base.subfolder ≠ "") (h : base.resolve raw = .ok path) :
    base.Places raw path := by
  have hpath := clean_of_resolve hclean.stays h
  obtain ⟨-, hw, -, hscope⟩ := resolve_eq_ok h
  rw [(normalize_inScope hclean.normal hne (Path.normalize_normalize raw)).1] at hscope
  refine ⟨hpath, hw, resolve_of_within hpath hw, fun hin => ?_, fun hout => ?_⟩
  · rw [hscope, inScope, if_pos hin]
  · rw [hscope, inScope, if_neg (Bool.eq_false_iff.mp hout)]
    simp only [String.isEmpty_iff]

theorem placesNote_of_resolveNote (h : base.resolveNote raw = .ok path) : base.PlacesNote path := by
  have hpath := clean_of_resolveNote hclean.stays h
  have hnote := isNote_of_resolveNote h
  obtain ⟨rest, rfl⟩ := below_of_resolveNote h
  have hw := Path.isWithin_below base.subfolder rest
  have hbelow := Path.below_ne_self base.subfolder rest
  exact ⟨hnote, hw, hbelow, resolve_of_within hpath hw, resolveNote_of_note hpath hw hbelow hnote⟩

-- A path is refused only for a way up, and a note's also where it names the subfolder itself.
-- All others have their place in the knowledge base, which is also the place of that place.
theorem resolve_scoped (hne : base.subfolder ≠ "") (raw : String) :
    (∀ fault, base.resolve raw = .error fault ↔
      Path.hasTraversal raw = true ∧ fault = .climbs raw) ∧
    (Failure.badPath (.climbs raw)).kind = "InvalidNotePath" ∧
    (Path.hasTraversal raw = false → ∃ path, base.resolve raw = .ok path ∧ base.Places raw path) ∧
    (Path.Clean raw → Path.isWithin raw base.subfolder = true → base.resolve raw = .ok raw) ∧
    ((∃ fault, base.resolveNote raw = .error fault) ↔
      (∃ fault, base.resolve raw = .error fault) ∨ base.resolve raw = .ok base.subfolder) ∧
    ∀ path, base.resolveNote raw = .ok path → base.PlacesNote path := by
  refine ⟨fun fault => resolve_eq_error_iff hclean.normal hne, rfl, fun hstays => ?_,
    resolve_of_within, resolveNote_eq_error_iff, fun path => placesNote_of_resolveNote hclean⟩
  have hresolve := resolve_eq hclean.normal hne raw
  rw [hstays, if_neg Bool.false_ne_true] at hresolve
  exact ⟨_, hresolve, places_of_resolve hclean hne hresolve⟩

end

-- A relative path, as it leads to a note below a nested subfolder.
theorem resolve_scoped_nested :
    let base : KnowledgeBase := .bare "lab" "notes/research"
    Path.Clean base.subfolder ∧ base.subfolder ≠ "" ∧
      base.resolve "./deep//b" = .ok "notes/research/deep/b" ∧
      base.Places "./deep//b" "notes/research/deep/b" ∧
      base.resolveNote "./deep//b" = .ok "notes/research/deep/b.md" ∧
      base.PlacesNote "notes/research/deep/b.md" := by
  intro base
  have hclean : Path.Clean base.subfolder := ⟨by decide, by decide⟩
  have hresolve : base.resolve "./deep//b" = .ok "notes/research/deep/b" := by decide
  have hnote : base.resolveNote "./deep//b" = .ok "notes/research/deep/b.md" := by decide
  obtain ⟨-, -, hplaces, -, -, hplacesNote⟩ := resolve_scoped hclean (by decide) "./deep//b"
  obtain ⟨path, hpath, hplace⟩ := hplaces (by decide)
  obtain rfl := Except.ok.inj (hresolve.symm.trans hpath)
  exact ⟨hclean, by decide, hresolve, hplace, hnote, hplacesNote _ hnote⟩

-- A path in another form that lies in the subfolder when brought into normal form is kept,
-- not put below the subfolder.
theorem resolve_keeps_unnormal :
    ¬∀ (base : KnowledgeBase) (raw : String), Path.Clean base.subfolder → base.subfolder ≠ "" →
      Path.hasTraversal raw = false →
      ¬(Path.Clean raw ∧ Path.isWithin raw base.subfolder = true) →
        base.resolve raw = .ok (if Path.normalize raw = "" then base.subfolder
          else Path.below base.subfolder (Path.normalize raw)) := by
  intro h
  have hout := h (.bare "team" "docs") "/docs/plan.md" ⟨by decide, by decide⟩ (by decide) (by decide)
    fun hin => absurd hin.1.normal (by decide)
  exact absurd hout (by decide)

end NoteVault.KnowledgeBase
