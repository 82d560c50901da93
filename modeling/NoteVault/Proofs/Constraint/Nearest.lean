import NoteVault.Proofs.Constraint.Applicable
import NoteVault.Proofs.Path.Containment

namespace NoteVault.Constraint

-- The folder that a constraint is for, in normal form.
def folder (constraint : Constraint) : String :=
  Path.normalize constraint.subfolder

-- A constraint contains the notes that lie directly in its folder, and those below it.
def Contains (constraint : Constraint) (path : String) : Prop :=
  Path.parent (Path.normalize path) = constraint.folder ∨
    constraint.folder ≠ Path.normalize path ∧
      Path.isWithin (Path.normalize path) constraint.folder = true

instance (constraint : Constraint) (path : String) : Decidable (constraint.Contains path) :=
  inferInstanceAs (Decidable (_ ∨ _ ∧ _))

-- A constraint of the list than which no other that contains the note has a folder
-- deeper inside.
structure IsNearest (constraint : Constraint) (path : String) (constraints : List Constraint) :
    Prop where
  contains : constraint.Contains path
  nearest : ∀ other ∈ constraints, other.Contains path →
    Path.isWithin constraint.folder other.folder = true

variable {constraint other : Constraint} {path : String} {constraints others : List Constraint}

theorem governs_iff : constraint.governs (Path.normalize path) = true ↔ constraint.Contains path := by
  simp only [governs, Contains, folder, Bool.or_eq_true, beq_iff_eq, Path.isWithin]
  refine or_congr_right ⟨fun hprefix => ⟨fun hsame => ?_, .inr hprefix⟩, ?_⟩
  · have hlength := (List.isPrefixOf_iff_prefix.mp hprefix).length_le
    rw [hsame, List.length_append, List.length_singleton] at hlength
    omega
  · rintro ⟨hne, hsame | hprefix⟩
    · exact absurd hsame.symm hne
    · exact hprefix

theorem filter_governs (path : String) (constraints : List Constraint) :
    constraints.filter (·.governs (Path.normalize path)) =
      constraints.filter (·.Contains path) :=
  List.filter_congr fun constraint _ => by
    rw [Bool.eq_iff_iff, governs_iff, decide_eq_true_iff]

-- Whatever contains a note has the note's own folder in its folder.
theorem Contains.isWithin_parent (h : constraint.Contains path) :
    Path.isWithin (Path.parent (Path.normalize path)) constraint.folder = true := by
  rcases h with hparent | ⟨hne, hwithin⟩
  · rw [hparent]
    exact Path.isWithin_self _
  · have hnormal := Path.normalize_normalize path
    refine Path.isWithin_parent hnormal hne hwithin fun hempty => ?_
    rw [hempty] at hne hwithin
    rcases (Path.isWithin_iff _ _).mp hwithin with hsame | ⟨rest, hbelow⟩
    · exact hne hsame.symm
    · rw [hbelow] at hnormal
      exact (Path.normalize_of_below hnormal).2.2.1 rfl

theorem depth_lt_of_below {rest : String} (h : constraint.folder = Path.below other.folder rest) :
    other.depth < constraint.depth := by
  have hlength := congrArg String.utf8ByteSize h
  have hslash : "/".utf8ByteSize = 1 := rfl
  rw [Path.below, String.utf8ByteSize_append, String.utf8ByteSize_append] at hlength
  simp only [depth, folder] at hlength ⊢
  omega

theorem depth_le_of_isWithin (h : Path.isWithin constraint.folder other.folder = true) :
    other.depth ≤ constraint.depth := by
  rcases (Path.isWithin_iff _ _).mp h with hsame | ⟨rest, hbelow⟩
  · exact Nat.le_of_eq (congrArg String.utf8ByteSize hsame.symm)
  · exact Nat.le_of_lt (depth_lt_of_below hbelow)

theorem depth_lt_of_isWithin (h : Path.isWithin constraint.folder other.folder = true)
    (hne : other.folder ≠ constraint.folder) : other.depth < constraint.depth := by
  rcases (Path.isWithin_iff _ _).mp h with hsame | ⟨rest, hbelow⟩
  · exact absurd hsame.symm hne
  · exact depth_lt_of_below hbelow

-- Hence the folders of two that contain one note lie on one line, and the longer one is
-- inside the other.
theorem Contains.isWithin_of_depth_le (h : constraint.Contains path) (ho : other.Contains path)
    (hdepth : other.depth ≤ constraint.depth) :
    Path.isWithin constraint.folder other.folder = true := by
  have hoverlap := Path.overlap_of_isWithin h.isWithin_parent ho.isWithin_parent
  rcases Bool.or_eq_true_iff.mp hoverlap with hwithin | hwithin
  · exact hwithin
  · rcases (Path.isWithin_iff _ _).mp hwithin with hsame | ⟨rest, hbelow⟩
    · rw [hsame]
      exact Path.isWithin_self _
    · exact absurd (depth_lt_of_below hbelow) (Nat.not_lt.mpr hdepth)

theorem foldl_closer_eq_none : constraints.foldl closer none = none ↔ constraints = [] := by
  rcases List.eq_nil_or_concat constraints with rfl | ⟨init, last, rfl⟩
  · simp
  · rw [List.concat_eq_append, foldl_closer_concat]
    simp [closer_ne_none]

theorem applicable?_eq_none :
    applicable? path constraints = none ↔ ∀ other ∈ constraints, ¬other.Contains path := by
  rw [applicable?, foldl_closer_eq_none, filter_governs, List.filter_eq_nil_iff]
  simp only [decide_eq_true_iff]

-- The constraint for a note is the nearest one, the first of several for one folder.
theorem applicable?_eq_some :
    applicable? path constraints = some constraint ↔ constraint.IsNearest path constraints ∧
      ∃ before after, constraints = before ++ constraint :: after ∧
        ∀ other ∈ before, other.Contains path → other.folder ≠ constraint.folder := by
  rw [applicable?, filter_governs, foldl_closer_eq_some]
  constructor
  · rintro ⟨first, last, hfilter, hfirst, hlast⟩
    obtain ⟨before, rest, hsplit, rfl, hrest⟩ := List.filter_eq_append_iff.mp hfilter
    obtain ⟨apart, after, rfl, hapart, hcontains, rfl⟩ := List.filter_eq_cons_iff.mp hrest
    rw [decide_eq_true_iff] at hcontains
    have hdepth : ∀ other ∈ constraints, other.Contains path → other.depth ≤ constraint.depth := by
      intro other ho hc
      have hm : other ∈ constraints.filter (·.Contains path) := List.mem_filter.mpr ⟨ho, by simpa⟩
      rw [hfilter, List.mem_append, List.mem_cons] at hm
      rcases hm with hm | rfl | hm
      · exact Nat.le_of_lt (hfirst other hm)
      · exact Nat.le_refl _
      · exact hlast other hm
    refine ⟨⟨hcontains, fun other ho hc => hcontains.isWithin_of_depth_le hc (hdepth other ho hc)⟩,
      before ++ apart, after, by rw [hsplit, List.append_assoc], fun other ho hc hsame => ?_⟩
    rcases List.mem_append.mp ho with ho | ho
    · have hlt := hfirst other (List.mem_filter.mpr ⟨ho, by simpa⟩)
      exact Nat.ne_of_lt hlt (congrArg String.utf8ByteSize hsame)
    · exact hapart other ho (by simpa)
  · rintro ⟨hnearest, before, after, rfl, hbefore⟩
    refine ⟨before.filter (·.Contains path), after.filter (·.Contains path), ?_, fun other ho => ?_,
      fun other ho => ?_⟩
    · rw [List.filter_append, List.filter_cons_of_pos (by simpa using hnearest.contains)]
    · obtain ⟨hm, hc⟩ := List.mem_filter.mp ho
      rw [decide_eq_true_iff] at hc
      exact depth_lt_of_isWithin (hnearest.nearest other (List.mem_append_left _ hm) hc)
        (hbefore other hm hc)
    · obtain ⟨hm, hc⟩ := List.mem_filter.mp ho
      rw [decide_eq_true_iff] at hc
      exact depth_le_of_isWithin
        (hnearest.nearest other (List.mem_append_right _ (List.mem_cons_of_mem _ hm)) hc)

theorem applicable?_of_filter
    (h : others.filter (·.Contains path) = constraints.filter (·.Contains path)) :
    applicable? path others = applicable? path constraints := by
  rw [applicable?, applicable?, filter_governs, filter_governs, h]

-- Where no two constraints are for one folder, there is no first of them.
theorem applicable?_of_perm (hperm : others.Perm constraints)
    (hdistinct : (constraints.map folder).Nodup) :
    applicable? path others = applicable? path constraints := by
  cases hfound : applicable? path constraints with
  | none =>
      rw [applicable?_eq_none] at hfound ⊢
      exact fun other ho => hfound other (hperm.mem_iff.mp ho)
  | some constraint =>
      obtain ⟨⟨hcontains, hnearest⟩, before, after, hsplit, -⟩ := applicable?_eq_some.mp hfound
      have hm : constraint ∈ others := hperm.mem_iff.mpr (by simp [hsplit])
      obtain ⟨first, last, rfl⟩ := List.append_of_mem hm
      refine applicable?_eq_some.mpr ⟨⟨hcontains, fun other ho => hnearest other (hperm.mem_iff.mp ho)⟩,
        first, last, rfl, fun other ho _ hsame => ?_⟩
      rw [← (hperm.map folder).nodup_iff, List.map_append, List.map_cons, List.nodup_append] at hdistinct
      exact hdistinct.2.2 _ (List.mem_map_of_mem ho) _ List.mem_cons_self hsame

-- The constraint for a note is the nearest of those that contain it, the first of equals,
-- and there is one if any contains it. What does not contain the note never matters, and
-- order does only among constraints for one folder.
theorem applicable?_nearest (path : String) (constraints : List Constraint) :
    (applicable? path constraints = none ↔ ∀ other ∈ constraints, ¬other.Contains path) ∧
      (∀ constraint, applicable? path constraints = some constraint ↔
        constraint.IsNearest path constraints ∧
          ∃ before after, constraints = before ++ constraint :: after ∧
            ∀ other ∈ before, other.Contains path → other.folder ≠ constraint.folder) ∧
      (∀ others : List Constraint, others.Perm constraints → (constraints.map folder).Nodup →
        applicable? path others = applicable? path constraints) ∧
      ∀ others : List Constraint,
        others.filter (·.Contains path) = constraints.filter (·.Contains path) →
          applicable? path others = applicable? path constraints :=
  ⟨applicable?_eq_none, fun _ => applicable?_eq_some, fun _ => applicable?_of_perm,
    fun _ => applicable?_of_filter⟩

-- A note in a folder with two constraints, which have another one around them.
theorem applicable?_nearest_api :
    let around : Constraint := ⟨"team", "docs", none, none, none⟩
    let first : Constraint := ⟨"team", "docs/api/", none, none, none⟩
    let second : Constraint := ⟨"team", "docs/api", none, none, none⟩
    let beside : Constraint := ⟨"team", "docs/apis", none, none, none⟩
    applicable? "docs/api/guide.md" [around, first, beside, second] = some first ∧
      applicable? "docs/api/guide.md" [second, beside, around] = some second ∧
      applicable? "docs/api/guide.md" [beside] = none := by
  intro around first second beside
  have hnearest := applicable?_nearest "docs/api/guide.md"
  have hsecond : applicable? "docs/api/guide.md" [around, second] = some second :=
    ((hnearest _).2.1 _).mpr ⟨⟨by decide, by decide⟩, [around], [], rfl, by decide⟩
  refine ⟨((hnearest _).2.1 _).mpr ⟨⟨by decide, by decide⟩, [around], [beside, second], rfl,
    by decide⟩, ?_, (hnearest _).1.mpr (by decide)⟩
  calc applicable? "docs/api/guide.md" [second, beside, around]
      = applicable? "docs/api/guide.md" [second, around] := (hnearest _).2.2.2 _ (by decide)
    _ = applicable? "docs/api/guide.md" [around, second] :=
        (hnearest _).2.2.1 _ (.swap _ _ _) (by decide)
    _ = some second := hsecond

end NoteVault.Constraint
