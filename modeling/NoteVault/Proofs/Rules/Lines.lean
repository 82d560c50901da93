import NoteVault.Proofs.Rules.Outline

namespace NoteVault.Rules

open Json Text

-- A row that is neither a comment nor a fence.
structure Row.IsPlain (row : Row) : Prop where
  inline : IsInline row.text
  head : ∀ char ∈ row.text.head?, char ≠ '#' ∧ char ≠ '\x60'

-- The lines of a block from its rows, with numbers from the given one on.
def numbered (number : Nat) : List Row → List Line
  | [] => []
  | row :: rows => ⟨number, 2 * row.depth, row.text⟩ :: numbered (number + 1) rows

theorem numbered_append (number : Nat) (rows others : List Row) :
    numbered number (rows ++ others) = numbered number rows ++ numbered (number + rows.length) others := by
  induction rows generalizing number with
  | nil => rfl
  | cons row rows ih =>
      rw [List.cons_append, numbered, numbered, ih, List.length_cons, List.cons_append]
      congr 3
      omega

@[simp] theorem length_numbered (number : Nat) (rows : List Row) :
    (numbered number rows).length = rows.length := by
  induction rows generalizing number with
  | nil => rfl
  | cons row rows ih => rw [numbered, List.length_cons, List.length_cons, ih]

variable {row : Row} {rows : List Row}

theorem byteLength_blanks (count : Nat) (chars : List Char) :
    byteLength (List.replicate count ' ' ++ chars) = count + byteLength chars := by
  induction count with
  | zero => rw [List.replicate_zero, List.nil_append, Nat.zero_add]
  | succ count ih =>
      have hone : ' '.utf8Size = 1 := by decide
      rw [List.replicate_succ, List.cons_append, byteLength, ih, hone]
      omega

theorem Row.IsPlain.line (h : row.IsPlain) : IsLine row.chars := by
  intro char hc
  rcases List.mem_append.mp hc with hc | hc
  · rw [List.eq_of_mem_replicate hc]
    decide
  · exact h.inline.line char hc

theorem Row.IsPlain.trimEnd (h : row.IsPlain) : trimEnd row.chars = row.chars := by
  refine trimEnd_eq_self fun char hc => h.inline.last char ?_
  rwa [chars, List.getLast?_append, Option.or_of_isSome] at hc
  rw [List.getLast?_isSome]
  exact h.inline.ne_nil

theorem Row.IsPlain.trimStart (h : row.IsPlain) : trimStart row.chars = row.text := by
  have hblank : ∀ char ∈ List.replicate (2 * row.depth) ' ', isBlank char = true := by
    intro char hc
    rw [List.eq_of_mem_replicate hc]
    rfl
  rw [Text.trimStart, chars, List.dropWhile_append_of_pos hblank]
  exact trimStart_eq_self h.inline.first

theorem Row.IsPlain.trim (h : row.IsPlain) : trim row.chars = row.text := by
  rw [Text.trim, h.trimStart, trimEnd_eq_self h.inline.last]

theorem Row.IsPlain.ofChars? (h : row.IsPlain) (number : Nat) :
    Line.ofChars? number row.chars = some ⟨number, 2 * row.depth, row.text⟩ := by
  have hempty : row.text.isEmpty = false := List.isEmpty_eq_false_iff.mpr h.inline.ne_nil
  have hcomment : (row.text.head? == some '#') = false := by
    rw [Bool.eq_false_iff, ne_eq, beq_iff_eq]
    exact fun hhead => (h.head '#' hhead).1 rfl
  have hindent : byteLength row.chars - byteLength row.text = 2 * row.depth := by
    rw [Row.chars, byteLength_blanks, Nat.add_sub_cancel]
  simp only [Line.ofChars?, h.trimEnd, h.trimStart, hempty, hcomment, Bool.or_self,
    Bool.false_eq_true, if_false, hindent]

-- Plain rows are cut apart at their line ends, whatever follows them.
theorem lines_rowsChars (h : ∀ row ∈ rows, row.IsPlain) (rest : List Char) :
    lines (rowsChars rows ++ rest) = rows.map Row.chars ++ lines rest := by
  induction rows with
  | nil => rfl
  | cons row rows ih =>
      obtain ⟨hrow, hrows⟩ := List.forall_mem_cons.mp h
      rw [rowsChars_cons, List.append_assoc, List.cons_append, lines_line hrow.line, ih hrows]
      rfl

theorem linesFrom_rows (h : ∀ row ∈ rows, row.IsPlain) (number : Nat) :
    linesFrom number (rows.map Row.chars) = numbered number rows := by
  induction rows generalizing number with
  | nil => rfl
  | cons row rows ih =>
      obtain ⟨hrow, hrows⟩ := List.forall_mem_cons.mp h
      simp only [List.map_cons, linesFrom, hrow.ofChars? number, ih hrows, numbered]

theorem linesOf_rowsChars (h : ∀ row ∈ rows, row.IsPlain) :
    linesOf (String.ofList (rowsChars rows)) = numbered 1 rows := by
  have hlines := lines_rowsChars h []
  rw [List.append_nil] at hlines
  rw [linesOf, String.toList_ofList, hlines, show lines [] = [] from rfl, List.append_nil,
    linesFrom_rows h]

end NoteVault.Rules
