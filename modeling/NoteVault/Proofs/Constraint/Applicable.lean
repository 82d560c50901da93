import Mathlib.Data.List.Count
import Mathlib.Data.List.Induction
import NoteVault.Constraint.Basic

namespace NoteVault.Constraint

variable {path : String} {constraint : Constraint} {constraints found : List Constraint}

theorem foldl_closer_concat (constraints : List Constraint) (last : Constraint) :
    (constraints ++ [last]).foldl closer none = closer (constraints.foldl closer none) last := by
  rw [List.foldl_append, List.foldl_cons, List.foldl_nil]

theorem closer_ne_none (best : Option Constraint) (constraint : Constraint) :
    closer best constraint ≠ none := by
  cases best with
  | none => exact Option.some_ne_none constraint
  | some other =>
      unfold closer
      dsimp only
      split <;> exact Option.some_ne_none _

-- What a run through a list keeps is the first of the deepest.
theorem exists_of_foldl_closer (h : constraints.foldl closer none = some constraint) :
    ∃ before after, constraints = before ++ constraint :: after ∧
      (∀ other ∈ before, other.depth < constraint.depth) ∧
      ∀ other ∈ after, other.depth ≤ constraint.depth := by
  induction constraints using List.reverseRecOn generalizing constraint with
  | nil => cases h
  | append_singleton constraints last ih =>
      rw [foldl_closer_concat] at h
      cases hbest : constraints.foldl closer none with
      | none =>
          have hnil : constraints = [] := by
            rcases List.eq_nil_or_concat constraints with hnil | ⟨init, other, rfl⟩
            · exact hnil
            · rw [List.concat_eq_append, foldl_closer_concat] at hbest
              exact absurd hbest (closer_ne_none _ _)
          rw [hbest] at h
          obtain rfl : last = constraint := Option.some.inj h
          exact ⟨[], [], by rw [hnil], by simp, by simp⟩
      | some best =>
          obtain ⟨before, after, rfl, hbefore, hafter⟩ := ih hbest
          rw [hbest, closer] at h
          split at h
          · rename_i hdeeper
            obtain rfl := Option.some.inj h
            refine ⟨before ++ best :: after, [], rfl, fun other ho => ?_, by simp⟩
            rcases List.mem_append.mp ho with ho | ho
            · exact Nat.lt_trans (hbefore other ho) hdeeper
            · rcases List.mem_cons.mp ho with rfl | ho
              · exact hdeeper
              · exact Nat.lt_of_le_of_lt (hafter other ho) hdeeper
          · rename_i hnot
            obtain rfl := Option.some.inj h
            refine ⟨before, after ++ [last], by simp, hbefore, fun other ho => ?_⟩
            rcases List.mem_append.mp ho with ho | ho
            · exact hafter other ho
            · rw [List.mem_singleton.mp ho]
              exact Nat.le_of_not_lt hnot

theorem foldl_closer_of_le (h : ∀ other ∈ constraints, other.depth ≤ constraint.depth) :
    constraints.foldl closer (some constraint) = some constraint := by
  induction constraints with
  | nil => rfl
  | cons first rest ih =>
      obtain ⟨hfirst, hrest⟩ := List.forall_mem_cons.mp h
      rw [List.foldl_cons, closer, if_neg (Nat.not_lt.mpr hfirst), ih hrest]

theorem foldl_closer_eq_some :
    constraints.foldl closer none = some constraint ↔ ∃ before after,
      constraints = before ++ constraint :: after ∧
        (∀ other ∈ before, other.depth < constraint.depth) ∧
        ∀ other ∈ after, other.depth ≤ constraint.depth := by
  refine ⟨exists_of_foldl_closer, ?_⟩
  rintro ⟨before, after, rfl, hbefore, hafter⟩
  rw [List.foldl_append, List.foldl_cons]
  cases hbest : before.foldl closer none with
  | none => exact foldl_closer_of_le hafter
  | some best =>
      obtain ⟨init, rest, rfl, -, -⟩ := exists_of_foldl_closer hbest
      have hdeeper : best.depth < constraint.depth :=
        hbefore best (List.mem_append_right _ List.mem_cons_self)
      rw [closer, if_pos hdeeper]
      exact foldl_closer_of_le hafter

-- A list without some of the constraints has the same one for a note, if it has that one
-- as often as before.
theorem applicable?_of_sublist (hsub : found.Sublist constraints)
    (hcount : found.count constraint = constraints.count constraint)
    (h : applicable? path constraints = some constraint) :
    applicable? path found = some constraint := by
  obtain ⟨before, after, hsplit, hbefore, hafter⟩ := exists_of_foldl_closer h
  have hgoverns : constraint.governs (Path.normalize path) = true := by
    have hmem : constraint ∈ constraints.filter (·.governs (Path.normalize path)) := by
      rw [hsplit]
      exact List.mem_append_right _ List.mem_cons_self
    exact (List.mem_filter.mp hmem).2
  have hsub := hsub.filter (·.governs (Path.normalize path))
  have hfilter : ∀ list : List Constraint,
      (list.filter (·.governs (Path.normalize path))).count constraint = list.count constraint :=
    fun list => List.count_filter hgoverns
  rw [← hfilter found, ← hfilter constraints, hsplit] at hcount
  rw [hsplit, List.sublist_append_iff] at hsub
  obtain ⟨first, second, hfound, hfirst, hsecond⟩ := hsub
  have hnone : first.count constraint = 0 := by
    refine List.count_eq_zero.mpr fun hm => ?_
    exact absurd (hbefore constraint (hfirst.subset hm)) (Nat.lt_irrefl _)
  -- the one that was kept is not among those that are missing
  obtain ⟨rest, rfl, hrest⟩ : ∃ rest, second = constraint :: rest ∧ rest.Sublist after := by
    rcases List.sublist_cons_iff.mp hsecond with hlost | hkept
    · rw [hfound, List.count_append, List.count_append, List.count_cons_self, hnone] at hcount
      have hle := hlost.count_le constraint
      omega
    · exact hkept
  rw [applicable?, hfound]
  exact foldl_closer_eq_some.mpr ⟨first, rest, rfl, fun other ho => hbefore other (hfirst.subset ho),
    fun other ho => hafter other (hrest.subset ho)⟩

end NoteVault.Constraint
