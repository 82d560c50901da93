import NoteVault.FrontMatter.Note
import NoteVault.Proofs.Text.Pieces

namespace NoteVault.FrontMatter

open Json Text

-- A text in four parts: a delimiter on its first line, further lines, a delimiter on one
-- more line, and the rest. Only the last line of a text can lack its line feed.
structure Framed (text opening : List Char) (inner : List (List Char)) (closing body : List Char) :
    Prop where
  whole : text = opening ++ (inner.flatten ++ (closing ++ body))
  opens : IsFull opening ∧ withoutLineEnd opening = delimiter
  isFull_inner : ∀ line ∈ inner, IsFull line
  closes : withoutLineEnd closing = delimiter
  ends : IsFull closing ∨ '\n' ∉ closing ∧ body = []

variable {text opening closing body : List Char} {inner lines after : List (List Char)}

theorem Framed.pieces (h : Framed text opening inner closing body) :
    Text.pieces text = opening :: (inner ++ closing :: Text.pieces body) := by
  have hclosing : Text.pieces (closing ++ body) = closing :: Text.pieces body := by
    rcases h.ends with hfull | ⟨hline, rfl⟩
    · exact pieces_append_of_isFull hfull body
    · have hne : closing ≠ [] := by
        rintro rfl
        exact absurd h.closes (by decide)
      rw [List.append_nil, pieces_eq_singleton hne hline]
      rfl
  rw [h.whole, pieces_append_of_isFull h.opens.1, pieces_flatten_append h.isFull_inner, hclosing]

theorem framed_of_pieces (h : Text.pieces text = opening :: (inner ++ closing :: after))
    (hopening : withoutLineEnd opening = delimiter)
    (hclosing : withoutLineEnd closing = delimiter) :
    Framed text opening inner closing after.flatten := by
  have hparts := pieces_flatten text
  rw [h, List.flatten_cons, List.flatten_append, List.flatten_cons] at hparts
  have hsplit : Text.pieces text = (opening :: inner) ++ closing :: after := h
  obtain ⟨hfull, hinner⟩ := List.forall_mem_cons.mp (isFull_of_mem_above hsplit)
  refine ⟨hparts.symm, ⟨hfull, hopening⟩, hinner, hclosing, ?_⟩
  refine (isFull_of_pieces hsplit).imp_right fun hlast => ⟨hlast.1, ?_⟩
  rw [hlast.2, List.flatten_nil]

-- The search for the closing delimiter stops at the first one.
theorem splitAtDelimiter_eq_some_iff {pieces : List (List Char)} :
    splitAtDelimiter pieces = some (lines, after) ↔ ∃ inner closing,
      pieces = inner ++ closing :: after ∧ withoutLineEnd closing = delimiter ∧
        (∀ line ∈ inner, withoutLineEnd line ≠ delimiter) ∧ lines = inner.map withoutLineEnd := by
  induction pieces generalizing lines with
  | nil => simp [splitAtDelimiter]
  | cons piece rest ih =>
      rw [splitAtDelimiter]
      split
      · rename_i hpiece
        constructor
        · intro h
          obtain ⟨rfl, rfl⟩ := Prod.mk.inj (Option.some.inj h)
          exact ⟨[], piece, rfl, hpiece, (fun _ hm => nomatch hm), rfl⟩
        · rintro ⟨inner, closing, heq, hclosing, hinner, rfl⟩
          rcases List.cons_eq_append_iff.mp heq with ⟨rfl, heq⟩ | ⟨inner, rfl, -⟩
          · obtain ⟨-, rfl⟩ := List.cons.inj heq
            rfl
          · exact absurd hpiece (hinner piece List.mem_cons_self)
      · rename_i hpiece
        constructor
        · intro h
          split at h
          · cases h
          · rename_i found left hrest
            obtain ⟨rfl, rfl⟩ := Prod.mk.inj (Option.some.inj h)
            obtain ⟨inner, closing, rfl, hclosing, hinner, rfl⟩ := ih.mp hrest
            exact ⟨piece :: inner, closing, rfl, hclosing,
              List.forall_mem_cons.mpr ⟨hpiece, hinner⟩, rfl⟩
        · rintro ⟨inner, closing, heq, hclosing, hinner, rfl⟩
          rcases List.cons_eq_append_iff.mp heq with ⟨rfl, heq⟩ | ⟨inner, rfl, rfl⟩
          · exact absurd ((List.cons.inj heq).1 ▸ hclosing) hpiece
          · have hrest := ih.mpr ⟨inner, closing, rfl, hclosing,
              (List.forall_mem_cons.mp hinner).2, rfl⟩
            rw [hrest]
            rfl

theorem splitHeader_eq_some_iff : splitHeader text = some (lines, body) ↔
    ∃ opening inner closing, Framed text opening inner closing body ∧
      (∀ line ∈ inner, withoutLineEnd line ≠ delimiter) ∧ lines = inner.map withoutLineEnd := by
  rw [splitHeader]
  constructor
  · intro h
    split at h
    · cases h
    · rename_i opening rest hpieces
      split at h
      · rename_i hopening
        split at h
        · cases h
        · rename_i found after hsplit
          obtain ⟨rfl, rfl⟩ := Prod.mk.inj (Option.some.inj h)
          obtain ⟨inner, closing, rfl, hclosing, hinner, rfl⟩ :=
            splitAtDelimiter_eq_some_iff.mp hsplit
          exact ⟨opening, inner, closing, framed_of_pieces hpieces hopening hclosing, hinner, rfl⟩
      · cases h
  · rintro ⟨opening, inner, closing, hframed, hinner, rfl⟩
    have hsplit := splitAtDelimiter_eq_some_iff.mpr
      ⟨inner, closing, rfl (a := inner ++ closing :: Text.pieces body), hframed.closes, hinner, rfl⟩
    simp only [hframed.pieces, if_pos hframed.opens.2, hsplit, pieces_flatten]

theorem isSome_splitAtDelimiter {pieces : List (List Char)}
    (h : ∃ piece ∈ pieces, withoutLineEnd piece = delimiter) :
    (splitAtDelimiter pieces).isSome = true := by
  induction pieces with
  | nil =>
      obtain ⟨piece, hpiece, -⟩ := h
      exact absurd hpiece List.not_mem_nil
  | cons first rest ih =>
      rw [splitAtDelimiter]
      split
      · rfl
      · rename_i hfirst
        obtain ⟨piece, hpiece, hdelimiter⟩ := h
        have hrest : piece ∈ rest := by
          refine (List.mem_cons.mp hpiece).resolve_left ?_
          rintro rfl
          exact hfirst hdelimiter
        obtain ⟨found, hfound⟩ := Option.isSome_iff_exists.mp (ih ⟨piece, hrest, hdelimiter⟩)
        rw [hfound]
        rfl

-- One delimiter on a later line is enough for a header, whatever else follows.
theorem isSome_splitHeader_iff : (splitHeader text).isSome = true ↔
    ∃ opening inner closing body, Framed text opening inner closing body := by
  constructor
  · intro h
    obtain ⟨⟨lines, body⟩, hsplit⟩ := Option.isSome_iff_exists.mp h
    obtain ⟨opening, inner, closing, hframed, -⟩ := splitHeader_eq_some_iff.mp hsplit
    exact ⟨opening, inner, closing, body, hframed⟩
  · rintro ⟨opening, inner, closing, body, hframed⟩
    have hlater : ∃ piece ∈ inner ++ closing :: Text.pieces body,
        withoutLineEnd piece = delimiter := ⟨closing, by simp, hframed.closes⟩
    obtain ⟨⟨lines, after⟩, hsplit⟩ := Option.isSome_iff_exists.mp (isSome_splitAtDelimiter hlater)
    simp only [splitHeader, hframed.pieces, if_pos hframed.opens.2, hsplit, Option.isSome_some]

theorem splitAtDelimiter_map_withReturns {pieces : List (List Char)}
    (h : ∀ piece ∈ pieces, withoutLineEnd (withReturns piece) = withoutLineEnd piece) :
    splitAtDelimiter (pieces.map withReturns) =
      (splitAtDelimiter pieces).map fun (lines, after) => (lines, after.map withReturns) := by
  induction pieces with
  | nil => rfl
  | cons piece rest ih =>
      obtain ⟨hpiece, hrest⟩ := List.forall_mem_cons.mp h
      rw [List.map_cons, splitAtDelimiter, splitAtDelimiter, hpiece, ih hrest]
      split
      · rfl
      · cases splitAtDelimiter rest <;> rfl

theorem splitHeader_withReturns (h : '\r' ∉ text) :
    splitHeader (withReturns text) =
      (splitHeader text).map fun (lines, body) => (lines, withReturns body) := by
  have hline : ∀ piece ∈ Text.pieces text,
      withoutLineEnd (withReturns piece) = withoutLineEnd piece := by
    intro piece hpiece
    obtain ⟨above, below, heq⟩ := List.append_of_mem hpiece
    refine withoutLineEnd_withReturns (fun hm => h ?_) ((isFull_of_pieces heq).imp_right And.left)
    rw [← pieces_flatten text]
    exact List.mem_flatten_of_mem hpiece hm
  rw [splitHeader, splitHeader, pieces_withReturns]
  cases hpieces : Text.pieces text with
  | nil => rfl
  | cons first rest =>
      rw [hpieces] at hline
      obtain ⟨hfirst, hrest⟩ := List.forall_mem_cons.mp hline
      simp only [List.map_cons, hfirst, splitAtDelimiter_map_withReturns hrest]
      split
      · cases splitAtDelimiter rest with
        | none => rfl
        | some found => simp [withReturns_flatten]
      · rfl

theorem ofText_of_splitHeader {text : String}
    (h : splitHeader text.toList = some (lines, body)) :
    Note.ofText text = ⟨readFields lines, String.ofList body, text⟩ := by
  simp only [Note.ofText, h]

-- A text has a header when its first line and a later line are delimiters. The fields come
-- from the lines between the first two, and the body is all that follows. Line ends with
-- carriage returns make no difference but in the body.
theorem ofText_framed (text : String) :
    let note := Note.ofText text
    note.raw = text ∧
      ((splitHeader text.toList).isSome = true ↔
        ∃ opening inner closing body, Framed text.toList opening inner closing body) ∧
      ((splitHeader text.toList).isSome = true → ∃ opening inner closing,
        Framed text.toList opening inner closing note.body.toList ∧
          (∀ line ∈ inner, withoutLineEnd line ≠ delimiter) ∧
          note.fields = readFields (inner.map withoutLineEnd)) ∧
      (splitHeader text.toList = none → note.fields = [] ∧ note.body = text) ∧
      ('\r' ∉ text.toList →
        let returned := Note.ofText (String.ofList (withReturns text.toList))
        returned.fields = note.fields ∧ returned.body.toList = withReturns note.body.toList) := by
  intro note
  refine ⟨raw_ofText text, isSome_splitHeader_iff, fun h => ?header, fun h => ?plain,
    fun h => ?returns⟩
  case header =>
    obtain ⟨⟨lines, body⟩, hsplit⟩ := Option.isSome_iff_exists.mp h
    have hnote : note = ⟨readFields lines, String.ofList body, text⟩ :=
      ofText_of_splitHeader hsplit
    obtain ⟨opening, inner, closing, hframed, hinner, rfl⟩ := splitHeader_eq_some_iff.mp hsplit
    rw [hnote]
    exact ⟨opening, inner, closing, by rwa [String.toList_ofList], hinner, rfl⟩
  case plain =>
    have hnote : note = ⟨[], text, text⟩ := by
      simp only [note, Note.ofText, h]
    rw [hnote]
    exact ⟨rfl, rfl⟩
  case returns =>
    simp only [note, Note.ofText, String.toList_ofList, splitHeader_withReturns h]
    cases splitHeader text.toList with
    | none => exact ⟨rfl, String.toList_ofList⟩
    | some found => exact ⟨rfl, by simp⟩

-- A header with a second delimiter below it in a text without a last line feed, and a text
-- that opens with something else.
theorem ofText_framed_plan :
    let text := "---\ntitle: Plan\n---\nBegin.\n---\nEnd"
    let plain := "Begin.\n---\ntitle: Plan\n---\n"
    let returned := Note.ofText (String.ofList (withReturns text.toList))
    (splitHeader text.toList).isSome = true ∧ '\r' ∉ text.toList ∧
      splitHeader plain.toList = none ∧
      (∃ opening inner closing, Framed text.toList opening inner closing "Begin.\n---\nEnd".toList ∧
        (∀ line ∈ inner, withoutLineEnd line ≠ delimiter) ∧
        (Note.ofText text).fields = readFields (inner.map withoutLineEnd)) ∧
      returned.fields = (Note.ofText text).fields ∧
      returned.body.toList = withReturns "Begin.\n---\nEnd".toList ∧
      (Note.ofText plain).fields = [] ∧ (Note.ofText plain).body = plain := by
  intro text plain returned
  have hsome : (splitHeader text.toList).isSome = true := by decide
  have hreturn : '\r' ∉ text.toList := by decide
  have hnone : splitHeader plain.toList = none := by decide
  have hbody : (Note.ofText text).body = "Begin.\n---\nEnd" := by decide
  obtain ⟨-, -, hheader, -, hreturned⟩ := ofText_framed text
  obtain ⟨-, -, -, hplain, -⟩ := ofText_framed plain
  rw [hbody] at hheader hreturned
  obtain ⟨hfields, hafter⟩ := hreturned hreturn
  exact ⟨hsome, hreturn, hnone, hheader hsome, hfields, hafter, hplain hnone⟩

end NoteVault.FrontMatter
