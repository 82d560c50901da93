import NoteVault.Proofs.Text.Line

namespace NoteVault.Text

-- A line with its line feed.
def IsFull (piece : List Char) : Prop :=
  ∃ line, '\n' ∉ line ∧ piece = line ++ ['\n']

-- What stands before a line, and what stands after one.
def StartsLine (before : List Char) : Prop :=
  ∀ char ∈ before.getLast?, char = '\n'

def EndsLine (after : List Char) : Prop :=
  ∀ char ∈ after.head?, char = '\n'

theorem startsLine_nil : StartsLine [] := by
  simp [StartsLine]

theorem endsLine_nil : EndsLine [] := by
  simp [EndsLine]

variable {chars line piece before after : List Char} {above below full : List (List Char)}

-- A text is a line without a line feed, or a line with one and a text after it.
theorem lines_induction {motive : List Char → Prop}
    (last : ∀ line, '\n' ∉ line → motive line)
    (more : ∀ line rest, '\n' ∉ line → motive rest → motive (line ++ '\n' :: rest))
    (chars : List Char) : motive chars := by
  have hprefix : ∀ line, '\n' ∉ line → motive (line ++ chars) := by
    induction chars with
    | nil =>
        intro line hline
        rw [List.append_nil]
        exact last line hline
    | cons char chars ih =>
        intro line hline
        by_cases hfeed : char = '\n'
        · rw [hfeed]
          exact more line chars hline (ih [] List.not_mem_nil)
        · have hnext := ih (line ++ [char]) (by simp [hline, Ne.symm hfeed])
          rwa [List.append_assoc, List.singleton_append] at hnext
  exact hprefix [] List.not_mem_nil

theorem pieces_append_of_isFull (h : IsFull piece) (rest : List Char) :
    pieces (piece ++ rest) = piece :: pieces rest := by
  obtain ⟨line, hline, rfl⟩ := h
  rw [List.append_assoc, List.singleton_append, pieces_line hline]

theorem pieces_flatten_append (h : ∀ piece ∈ full, IsFull piece) (rest : List Char) :
    pieces (full.flatten ++ rest) = full ++ pieces rest := by
  induction full with
  | nil => rfl
  | cons piece full ih =>
      obtain ⟨hpiece, hfull⟩ := List.forall_mem_cons.mp h
      rw [List.flatten_cons, List.append_assoc, pieces_append_of_isFull hpiece, ih hfull]
      rfl

theorem pieces_eq_singleton (hne : line ≠ []) (h : '\n' ∉ line) : pieces line = [line] := by
  induction line with
  | nil => exact absurd rfl hne
  | cons char line ih =>
      rw [List.mem_cons, not_or] at h
      rw [pieces, if_neg (Ne.symm h.1)]
      cases line with
      | nil => rfl
      | cons next line => rw [ih (List.cons_ne_nil _ _) h.2]

-- Every piece has its line feed, but for the last one of a text.
theorem isFull_of_pieces (h : pieces chars = above ++ piece :: below) :
    IsFull piece ∨ '\n' ∉ piece ∧ below = [] := by
  induction chars generalizing above piece with
  | nil => cases above <;> cases h
  | cons char chars ih =>
      rw [pieces] at h
      split at h
      · rename_i hfeed
        rcases List.cons_eq_append_iff.mp h with ⟨rfl, heq⟩ | ⟨above, rfl, heq⟩
        · obtain ⟨rfl, rfl⟩ := List.cons.inj heq
          exact .inl ⟨[], List.not_mem_nil, by rw [hfeed]; rfl⟩
        · exact ih heq
      · rename_i hchar
        split at h
        · rename_i hrest
          rcases List.cons_eq_append_iff.mp h with ⟨rfl, heq⟩ | ⟨above, rfl, heq⟩
          · obtain ⟨rfl, rfl⟩ := List.cons.inj heq
            exact .inr ⟨by simpa [eq_comm] using hchar, rfl⟩
          · cases above <;> cases heq
        · rename_i first others hrest
          rcases List.cons_eq_append_iff.mp h with ⟨rfl, heq⟩ | ⟨above, rfl, rfl⟩
          · obtain ⟨rfl, rfl⟩ := List.cons.inj heq
            -- one more character stands before the line feed
            have hfirst : pieces chars = [] ++ first :: below := hrest
            rcases ih hfirst with ⟨line, hline, rfl⟩ | ⟨hnone, rfl⟩
            · exact .inl ⟨char :: line, by simp [hline, Ne.symm hchar], rfl⟩
            · exact .inr ⟨by simp [hnone, Ne.symm hchar], rfl⟩
          · exact ih (show pieces chars = (first :: above) ++ piece :: below from hrest)

theorem isFull_of_mem_above (h : pieces chars = above ++ piece :: below) :
    ∀ piece ∈ above, IsFull piece := by
  intro other hother
  obtain ⟨front, back, rfl⟩ := List.append_of_mem hother
  rw [List.append_assoc, List.cons_append] at h
  refine (isFull_of_pieces h).resolve_right fun hlast => ?_
  exact absurd hlast.2 (by simp)

theorem startsLine_flatten (h : ∀ piece ∈ full, IsFull piece) : StartsLine full.flatten := by
  rcases List.eq_nil_or_concat full with rfl | ⟨front, last, rfl⟩
  · exact startsLine_nil
  · obtain ⟨line, -, rfl⟩ := h last (by simp)
    intro char hc
    simpa [List.getLast?_append, eq_comm] using hc

theorem pieces_append (h : StartsLine before) (rest : List Char) :
    pieces (before ++ rest) = pieces before ++ pieces rest := by
  induction before with
  | nil => rfl
  | cons char before ih =>
      rw [List.cons_append, pieces, pieces]
      cases before with
      | nil =>
          obtain rfl := h char rfl
          rfl
      | cons next before =>
          rw [ih (by simpa [StartsLine] using h)]
          split
          · rfl
          · -- a text of a character or more has a piece
            cases hpieces : pieces (next :: before) with
            | nil =>
                have hflatten := pieces_flatten (next :: before)
                rw [hpieces] at hflatten
                cases hflatten
            | cons first others => rfl

-- A line of a text, with what stands around it.
theorem exists_of_mem_lines (h : line ∈ lines chars) : ∃ before ending after,
    chars = before ++ (line ++ (ending ++ after)) ∧ StartsLine before ∧ EndsLine after ∧
      '\n' ∉ line ∧ (ending = [] ∨ ending = ['\r']) := by
  obtain ⟨piece, hpiece, rfl⟩ := List.mem_map.mp h
  obtain ⟨above, below, heq⟩ := List.append_of_mem hpiece
  have hchars := pieces_flatten chars
  rw [heq, List.flatten_append, List.flatten_cons] at hchars
  have hstart := startsLine_flatten (isFull_of_mem_above heq)
  have hfeed : EndsLine ('\n' :: below.flatten) := fun char hc => (Option.some.inj hc).symm
  rcases isFull_of_pieces heq with ⟨line, hline, rfl⟩ | ⟨hline, rfl⟩
  · rw [if_pos (by simp)]
    by_cases hreturn : line.getLast? = some '\r'
    · obtain ⟨front, rfl⟩ := List.getLast?_eq_some_iff.mp hreturn
      have hwithout : withoutLineEnd (front ++ ['\r'] ++ ['\n']) = front := by
        simp [withoutLineEnd, withoutLast]
      rw [hwithout]
      refine ⟨above.flatten, ['\r'], _, ?_, hstart, hfeed, by simp_all, .inr rfl⟩
      rw [← hchars]
      simp
    · have hwithout : withoutLineEnd (line ++ ['\n']) = line := by
        simp [withoutLineEnd, withoutLast, hreturn]
      rw [hwithout]
      refine ⟨above.flatten, [], _, ?_, hstart, hfeed, hline, .inl rfl⟩
      rw [← hchars]
      simp
  · have hlast : piece.getLast? ≠ some '\n' := fun h => hline (List.mem_of_getLast? h)
    rw [if_neg hlast]
    refine ⟨above.flatten, [], [], ?_, hstart, endsLine_nil, hline, .inl rfl⟩
    rw [← hchars]
    simp

-- Characters between two line ends are a line, without a carriage return at their end
-- if they have one there.
theorem mem_lines_of_append (hstart : StartsLine before) (hend : EndsLine after) (hne : line ≠ [])
    (hline : '\n' ∉ line) :
    line ∈ lines (before ++ (line ++ after)) ∨
      withoutLast '\r' line ∈ lines (before ++ (line ++ after)) := by
  simp only [lines, pieces_append hstart, List.map_append, List.mem_append]
  cases after with
  | nil =>
      have hlast : line.getLast? ≠ some '\n' := fun h => hline (List.mem_of_getLast? h)
      rw [List.append_nil, pieces_eq_singleton hne hline]
      exact .inl (.inr (by simp [hlast]))
  | cons char after =>
      obtain rfl := hend char rfl
      have hwithout : withoutLineEnd (line ++ ['\n']) = withoutLast '\r' line := by
        simp [withoutLineEnd, withoutLast]
      rw [pieces_line hline]
      exact .inr (.inr (by simp [hwithout]))

-- The same text with a carriage return before every line feed.
def withReturns (chars : List Char) : List Char :=
  chars.flatMap fun char => if char = '\n' then ['\r', '\n'] else [char]

theorem pieces_withReturns (chars : List Char) :
    pieces (withReturns chars) = (pieces chars).map withReturns := by
  induction chars with
  | nil => rfl
  | cons char chars ih =>
      rw [withReturns, List.flatMap_cons, ← withReturns, pieces]
      split
      · rename_i hfeed
        rw [List.map_cons, ← ih, hfeed]
        exact pieces_line (show '\n' ∉ ['\r'] by decide) _
      · rename_i hchar
        rw [List.singleton_append, pieces, if_neg hchar, ih]
        cases pieces chars with
        | nil => simp [withReturns, hchar]
        | cons piece others => simp [withReturns, hchar]

theorem withReturns_flatten (pieces : List (List Char)) :
    (pieces.map withReturns).flatten = withReturns pieces.flatten := by
  induction pieces with
  | nil => rfl
  | cons piece pieces ih =>
      rw [List.map_cons, List.flatten_cons, List.flatten_cons, ih]
      exact List.flatMap_append.symm

theorem withReturns_eq_self (h : '\n' ∉ chars) : withReturns chars = chars := by
  induction chars with
  | nil => rfl
  | cons char chars ih =>
      rw [List.mem_cons, not_or] at h
      rw [withReturns, List.flatMap_cons, ← withReturns, if_neg (Ne.symm h.1), ih h.2]
      rfl

-- A line is the same line, whichever line end it has.
theorem withoutLineEnd_withReturns (hreturn : '\r' ∉ piece) (h : IsFull piece ∨ '\n' ∉ piece) :
    withoutLineEnd (withReturns piece) = withoutLineEnd piece := by
  rcases h with ⟨line, hline, rfl⟩ | hnone
  · have hwith : withReturns (line ++ ['\n']) = line ++ ['\r'] ++ ['\n'] := by
      rw [withReturns, List.flatMap_append, ← withReturns, withReturns_eq_self hline]
      simp
    rw [hwith, withoutLineEnd_line fun h => hreturn (List.mem_append_left _ h)]
    simp [withoutLineEnd, withoutLast]
  · rw [withReturns_eq_self hnone]

end NoteVault.Text
