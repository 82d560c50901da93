import Mathlib.Data.List.TakeWhile
import NoteVault.Text.Basic
import NoteVault.Text.Line

namespace NoteVault.Text

variable {char : Char} {chars line : List Char}

theorem trim_cons_blank (h : isBlank char = true) (chars : List Char) :
    trim (char :: chars) = trim chars := by
  rw [trim, trimStart, List.dropWhile_cons_of_pos h]
  rfl

theorem trimStart_eq_self (h : ∀ char ∈ chars.head?, isBlank char = false) :
    trimStart chars = chars := by
  cases chars with
  | nil => rfl
  | cons char rest => exact List.dropWhile_cons_of_neg (by simp [h char rfl])

theorem trimEnd_eq_self (h : ∀ char ∈ chars.getLast?, isBlank char = false) :
    trimEnd chars = chars := by
  have hreverse : trimStart chars.reverse = chars.reverse :=
    trimStart_eq_self (by simpa using h)
  rw [trimStart] at hreverse
  rw [trimEnd, hreverse, List.reverse_reverse]

-- A text between two visible characters loses nothing.
theorem trim_eq_self (hfirst : ∀ char ∈ chars.head?, isBlank char = false)
    (hlast : ∀ char ∈ chars.getLast?, isBlank char = false) : trim chars = chars := by
  rw [trim, trimStart_eq_self hfirst, trimEnd_eq_self hlast]

theorem trim_between {first last : Char} (hfirst : isBlank first = false)
    (hlast : isBlank last = false) (inner : List Char) :
    trim (first :: (inner ++ [last])) = first :: (inner ++ [last]) := by
  refine trim_eq_self ?_ ?_
  · simpa using hfirst
  · rw [← List.cons_append, List.getLast?_append]
    simpa using hlast

theorem trim_eq_nil_iff (chars : List Char) :
    trim chars = [] ↔ ∀ char ∈ chars, isBlank char = true := by
  rw [trim, trimEnd, trimStart, List.reverse_eq_nil_iff, List.dropWhile_eq_nil_iff]
  constructor
  · intro h char hchar
    rw [← List.takeWhile_append_dropWhile (p := isBlank) (l := chars)] at hchar
    rcases List.mem_append.mp hchar with hm | hm
    · exact List.mem_takeWhile_imp hm
    · exact h char (List.mem_reverse.mpr hm)
  · intro h char hchar
    exact h char ((List.dropWhile_suffix isBlank).subset (List.mem_reverse.mp hchar))

theorem trimEnd_append_blanks {after : List Char} (hafter : ∀ char ∈ after, isBlank char = true)
    (chars : List Char) : trimEnd (chars ++ after) = trimEnd chars := by
  rw [trimEnd, List.reverse_append, List.dropWhile_append_of_pos (by simpa using hafter)]
  rfl

-- Blanks around a text go.
theorem trim_blanks {before after : List Char} (hbefore : ∀ char ∈ before, isBlank char = true)
    (hafter : ∀ char ∈ after, isBlank char = true) (chars : List Char) :
    trim (before ++ (chars ++ after)) = trim chars := by
  rw [trim, trimStart, List.dropWhile_append_of_pos hbefore, List.dropWhile_append]
  split
  · rename_i hempty
    rw [List.isEmpty_iff] at hempty
    rw [trim, trimStart, hempty, List.dropWhile_eq_nil_iff.mpr hafter]
  · exact trimEnd_append_blanks hafter _

theorem trimEnd_cons (char : Char) (chars : List Char) :
    trimEnd (char :: chars) =
      if isBlank char = true ∧ trimEnd chars = [] then [] else char :: trimEnd chars := by
  rw [trimEnd, trimEnd, List.reverse_cons, List.dropWhile_append]
  cases hdrop : chars.reverse.dropWhile isBlank with
  | nil => by_cases hblank : isBlank char = true <;> simp [hblank]
  | cons last rest => simp

theorem trimEnd_append (before : List Char) {rest : List Char} (h : trimEnd rest ≠ []) :
    trimEnd (before ++ rest) = before ++ trimEnd rest := by
  induction before with
  | nil => rfl
  | cons char before ih =>
      have hne : trimEnd (before ++ rest) ≠ [] := by
        rw [ih]
        exact List.append_ne_nil_of_right_ne_nil before h
      rw [List.cons_append, trimEnd_cons, if_neg fun hnone => hne hnone.2, ih, List.cons_append]

-- It does not matter which end is trimmed first.
theorem trimStart_trimEnd (chars : List Char) : trimStart (trimEnd chars) = trim chars := by
  induction chars with
  | nil => rfl
  | cons char chars ih =>
      rw [trimEnd_cons]
      by_cases hblank : isBlank char = true
      · rw [trim_cons_blank hblank, ← ih]
        split
        · rename_i hnone
          rw [hnone.2]
        · exact List.dropWhile_cons_of_pos hblank
      · rw [if_neg fun h => hblank h.1, trim, trimStart, trimStart,
          List.dropWhile_cons_of_neg hblank, List.dropWhile_cons_of_neg hblank, trimEnd_cons,
          if_neg fun h => hblank h.1]

theorem isBlank_of_mem_head?_trim : ∀ char ∈ (trim chars).head?, isBlank char = false := by
  intro char h
  have hstart : ∀ char ∈ (trimStart chars).head?, isBlank char = false := by
    intro char h
    have hnot := List.head?_dropWhile_not isBlank chars
    rw [trimStart] at h
    rw [Option.mem_def.mp h] at hnot
    simpa using hnot
  have hprefix : trim chars <+: trimStart chars := by
    have hsuffix := List.dropWhile_suffix (l := (trimStart chars).reverse) isBlank
    simpa [trim, trimEnd] using List.reverse_prefix.mpr hsuffix
  obtain ⟨rest, hrest⟩ := hprefix
  refine hstart char ?_
  rw [← hrest, List.head?_append, Option.mem_def.mp h]
  rfl

theorem isBlank_of_mem_getLast?_trim : ∀ char ∈ (trim chars).getLast?, isBlank char = false := by
  intro char h
  have hnot := List.head?_dropWhile_not isBlank (trimStart chars).reverse
  rw [trim, trimEnd, List.getLast?_reverse] at h
  rw [Option.mem_def.mp h] at hnot
  simpa using hnot

theorem trim_trim (chars : List Char) : trim (trim chars) = trim chars :=
  trim_eq_self isBlank_of_mem_head?_trim isBlank_of_mem_getLast?_trim

theorem splitAtFirst_append {separator : Char} {before : List Char} (h : separator ∉ before)
    (after : List Char) :
    splitAtFirst separator (before ++ separator :: after) = some (before, after) := by
  induction before with
  | nil => simp [splitAtFirst]
  | cons char before ih =>
      rw [List.mem_cons, not_or] at h
      obtain ⟨hne, hrest⟩ := h
      rw [List.cons_append, splitAtFirst, if_neg (Ne.symm hne), ih hrest]
      rfl

theorem pieces_line (h : '\n' ∉ line) (rest : List Char) :
    pieces (line ++ '\n' :: rest) = (line ++ ['\n']) :: pieces rest := by
  induction line with
  | nil => simp [pieces]
  | cons char line ih =>
      rw [List.mem_cons, not_or] at h
      obtain ⟨hne, hrest⟩ := h
      rw [List.cons_append, pieces, if_neg (Ne.symm hne), ih hrest]
      rfl

theorem withoutLineEnd_line (hreturn : '\r' ∉ line) :
    withoutLineEnd (line ++ ['\n']) = line := by
  have hlast : line.getLast? ≠ some '\r' := fun h => hreturn (List.mem_of_getLast? h)
  have hfirst : withoutLast '\n' (line ++ ['\n']) = line := by
    rw [withoutLast, if_pos (by simp), List.dropLast_concat]
  rw [withoutLineEnd, hfirst, withoutLast, if_neg hlast]

-- Characters that end no line.
def IsLine (chars : List Char) : Prop :=
  ∀ char ∈ chars, char ≠ '\n' ∧ char ≠ '\r'

instance (chars : List Char) : Decidable (IsLine chars) :=
  List.decidableBAll (fun char => char ≠ '\n' ∧ char ≠ '\r') chars

theorem lines_line (h : IsLine line) (rest : List Char) :
    lines (line ++ '\n' :: rest) = line :: lines rest := by
  have hfeed : '\n' ∉ line := fun hc => (h _ hc).1 rfl
  have hreturn : '\r' ∉ line := fun hc => (h _ hc).2 rfl
  rw [lines, pieces_line hfeed, List.map_cons, if_pos (by simp), withoutLineEnd_line hreturn]
  rfl

end NoteVault.Text
