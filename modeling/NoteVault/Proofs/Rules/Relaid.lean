import Mathlib.Logic.Relation
import NoteVault.Proofs.FrontMatter.Fields
import NoteVault.Proofs.Rules.Lines
import NoteVault.Proofs.Rules.Shift
import NoteVault.Proofs.Text.Pieces

namespace NoteVault.Rules

open FrontMatter Text

-- A line with its line feed, deeper by some blanks if it is not blank itself.
def indentPiece (count : Nat) (piece : List Char) : List Char :=
  if trim piece = [] then piece else List.replicate count ' ' ++ piece

def indentBy (count : Nat) (chars : List Char) : List Char :=
  (pieces chars).flatMap (indentPiece count)

-- One change of the layout of a text. The line feed of an inserted line stands after it, or
-- before it at the end of the text.
inductive Edit : List Char → List Char → Prop
  | silent {before after line : List Char} (hstart : StartsLine before) (hline : '\n' ∉ line)
    (hsilent : IsSilent line) : Edit (before ++ after) (before ++ (line ++ '\n' :: after))
  | lastSilent {before line : List Char} (hline : '\n' ∉ line) (hsilent : IsSilent line) :
    Edit before (before ++ '\n' :: line)
  | trailing {before blanks after : List Char} (hend : EndsLine after)
    (hblanks : ∀ char ∈ blanks, isBlank char = true ∧ char ≠ '\n') :
    Edit (before ++ after) (before ++ (blanks ++ after))
  | lineEnd {before after : List Char} :
    Edit (before ++ '\n' :: after) (before ++ '\r' :: '\n' :: after)
  | indent {count : Nat} {chars : List Char} : Edit chars (indentBy count chars)

-- Changes of the layout in any number and order, made or undone.
def Relaid (text other : String) : Prop :=
  Relation.EqvGen Edit text.toList other.toList

-- Where a line of a block stands and what it says, but not its number.
def Line.layout (line : Line) : Nat × List Char :=
  (line.indent, line.text)

def layout? (line : List Char) : Option (Nat × List Char) :=
  (Line.ofChars? 0 line).map Line.layout

def layouts (chars : List Char) : List (Nat × List Char) :=
  (pieces chars).filterMap layout?

variable {chars line before after rest blanks : List Char}

theorem layout?_of_isSilent (h : IsSilent line) : layout? line = none := by
  have htext : ((trim line).isEmpty || (trim line).head? == some '#') = true := by
    rcases h with hblank | hcomment
    · simp [hblank]
    · simp [hcomment]
  rw [layout?, Line.ofChars?, trimStart_trimEnd, if_pos htext]
  rfl

theorem layout?_append_blanks (hblanks : ∀ char ∈ blanks, isBlank char = true) (line : List Char) :
    layout? (line ++ blanks) = layout? line := by
  rw [layout?, layout?, Line.ofChars?, Line.ofChars?, trimEnd_append_blanks hblanks]

theorem layouts_line (h : '\n' ∉ line) (rest : List Char) :
    layouts (line ++ '\n' :: rest) = (layout? line).toList ++ layouts rest := by
  have hfeed : layout? (line ++ ['\n']) = layout? line :=
    layout?_append_blanks (List.forall_mem_singleton.mpr (by decide)) line
  rw [layouts, pieces_line h, List.filterMap_cons, hfeed, ← layouts]
  cases layout? line <;> rfl

theorem layouts_last (h : '\n' ∉ line) : layouts line = (layout? line).toList := by
  cases line with
  | nil => rfl
  | cons char line =>
      rw [layouts, pieces_eq_singleton (List.cons_ne_nil _ _) h, List.filterMap_cons]
      cases layout? (char :: line) <;> rfl

theorem layouts_append (before rest : List Char) :
    layouts (before ++ '\n' :: rest) = layouts before ++ layouts rest := by
  induction before using lines_induction with
  | last line h => rw [layouts_line h, layouts_last h]
  | more line before h ih =>
      rw [List.append_assoc, List.cons_append, layouts_line h, layouts_line h, ih,
        List.append_assoc]

theorem layouts_append_blanks (hend : EndsLine after)
    (hblanks : ∀ char ∈ blanks, isBlank char = true ∧ char ≠ '\n') (before : List Char) :
    layouts (before ++ (blanks ++ after)) = layouts (before ++ after) := by
  have hfeed : '\n' ∉ blanks := fun h => (hblanks _ h).2 rfl
  induction before using lines_induction with
  | last line h =>
      have hline : '\n' ∉ line ++ blanks := by simp [h, hfeed]
      have hsame := layout?_append_blanks (fun char hc => (hblanks char hc).1) line
      cases after with
      | nil => rw [List.append_nil, List.append_nil, layouts_last hline, layouts_last h, hsame]
      | cons char after =>
          obtain rfl := hend char rfl
          rw [← List.append_assoc, layouts_line hline, layouts_line h, hsame]
  | more line before h ih =>
      rw [List.append_assoc, List.append_assoc, List.cons_append, List.cons_append,
        layouts_line h, layouts_line h, ih]

theorem layouts_silent (hstart : StartsLine before) (hline : '\n' ∉ line) (hsilent : IsSilent line)
    (after : List Char) :
    layouts (before ++ (line ++ '\n' :: after)) = layouts (before ++ after) := by
  rcases List.eq_nil_or_concat before with rfl | ⟨front, char, rfl⟩
  · rw [List.nil_append, List.nil_append, layouts_line hline, layout?_of_isSilent hsilent]
    rfl
  · obtain rfl := hstart char (by simp)
    rw [List.concat_eq_append, List.append_assoc, List.append_assoc, List.singleton_append,
      List.singleton_append, layouts_append front, layouts_append front, layouts_line hline,
      layout?_of_isSilent hsilent]
    rfl

theorem pieces_indentBy (count : Nat) (chars : List Char) :
    pieces (indentBy count chars) = (pieces chars).map (indentPiece count) := by
  have hfeed : ∀ line, '\n' ∉ line → '\n' ∉ List.replicate count ' ' ++ line := by
    intro line h hc
    rcases List.mem_append.mp hc with hc | hc
    · exact absurd (List.eq_of_mem_replicate hc) (by decide)
    · exact h hc
  induction chars using lines_induction with
  | last line h =>
      cases line with
      | nil => rfl
      | cons char line =>
          rw [indentBy, pieces_eq_singleton (List.cons_ne_nil _ _) h]
          simp only [List.flatMap_cons, List.flatMap_nil, List.append_nil, List.map_cons, List.map_nil,
            indentPiece]
          split
          · exact pieces_eq_singleton (List.cons_ne_nil _ _) h
          · exact pieces_eq_singleton (by simp) (hfeed _ h)
  | more line rest h ih =>
      rw [indentBy, pieces_line h, List.flatMap_cons, ← indentBy, List.map_cons, indentPiece]
      split
      · rw [List.append_assoc, List.singleton_append, pieces_line h, ih]
      · rw [List.append_assoc, List.append_assoc, List.singleton_append, ← List.append_assoc,
          pieces_line (hfeed line h), ih, List.append_assoc]

theorem byteLength_trimStart_le (chars : List Char) :
    byteLength (trimStart chars) ≤ byteLength chars := by
  induction chars with
  | nil => exact Nat.le_refl _
  | cons char chars ih =>
      rw [trimStart, List.dropWhile_cons]
      split
      · exact Nat.le_trans ih (Nat.le_add_left _ _)
      · exact Nat.le_refl _

-- Blanks before a line that says something make it deeper by their number.
theorem layout?_indentPiece (count : Nat) (piece : List Char) :
    layout? (indentPiece count piece) =
      (layout? piece).map fun layout => (layout.1 + count, layout.2) := by
  rw [indentPiece]
  split
  · rename_i hblank
    rw [layout?_of_isSilent (.inl hblank)]
    rfl
  · rename_i hvisible
    have hne : trimEnd piece ≠ [] := by
      intro hnone
      rw [← trimStart_trimEnd, hnone] at hvisible
      exact hvisible rfl
    have hblanks : ∀ char ∈ List.replicate count ' ', isBlank char = true := by
      intro char hc
      rw [List.eq_of_mem_replicate hc]
      decide
    have htext : trimStart (List.replicate count ' ' ++ trimEnd piece) = trimStart (trimEnd piece) :=
      List.dropWhile_append_of_pos hblanks
    have hlength := byteLength_trimStart_le (trimEnd piece)
    simp only [layout?, Line.ofChars?, trimEnd_append _ hne, htext, byteLength_blanks]
    split
    · rfl
    · simp only [Option.map_some, Line.layout, Option.some.injEq, Prod.mk.injEq, and_true]
      omega

theorem layouts_indentBy (count : Nat) (chars : List Char) :
    layouts (indentBy count chars) =
      (layouts chars).map fun layout => (layout.1 + count, layout.2) := by
  rw [layouts, layouts, pieces_indentBy, List.filterMap_map, List.map_filterMap]
  exact List.filterMap_congr fun piece _ => layout?_indentPiece count piece

-- An edit moves all lines of a block by one depth, if any, and changes none of their texts.
theorem Edit.layouts {chars others : List Char} (h : Edit chars others) :
    ∃ depth, layouts others = (layouts chars).map fun layout => (layout.1 + depth, layout.2) := by
  have hsame : ∀ {chars others : List Char}, Rules.layouts others = Rules.layouts chars →
      ∃ depth, Rules.layouts others =
        (Rules.layouts chars).map fun layout => (layout.1 + depth, layout.2) := by
    intro chars others h
    exact ⟨0, by simp [h]⟩
  cases h with
  | silent hstart hline hsilent => exact hsame (layouts_silent hstart hline hsilent _)
  | lastSilent hline hsilent =>
      refine hsame ?_
      rw [layouts_append, layouts_last hline, layout?_of_isSilent hsilent]
      exact List.append_nil _
  | trailing hend hblanks => exact hsame (layouts_append_blanks hend hblanks _)
  | @lineEnd before after =>
      have hend : EndsLine ('\n' :: after) := fun char hc => (Option.some.inj hc).symm
      have hreturn : ∀ char ∈ ['\r'], isBlank char = true ∧ char ≠ '\n' :=
        List.forall_mem_singleton.mpr (by decide)
      exact hsame (layouts_append_blanks hend hreturn before)
  | @indent count chars => exact ⟨count, layouts_indentBy count chars⟩

theorem layout_linesFrom (number : Nat) (lines : List (List Char)) :
    (linesFrom number lines).map Line.layout = lines.filterMap layout? := by
  induction lines generalizing number with
  | nil => rfl
  | cons line lines ih =>
      have hnumber : layout? line = (Line.ofChars? number line).map Line.layout := by
        rw [layout?, Line.ofChars?, Line.ofChars?]
        split <;> rfl
      rw [linesFrom, List.filterMap_cons, hnumber]
      cases Line.ofChars? number line with
      | none => exact ih (number + 1)
      | some found => exact congrArg (found.layout :: ·) (ih (number + 1))

theorem layout?_withoutLast {char : Char} (hblank : isBlank char = true) (line : List Char) :
    layout? (withoutLast char line) = layout? line := by
  rw [withoutLast]
  split
  · rename_i hlast
    obtain ⟨front, rfl⟩ := List.getLast?_eq_some_iff.mp hlast
    rw [List.dropLast_concat, layout?_append_blanks (by simpa using hblank)]
  · rfl

-- Line ends are blanks at the end of a line.
theorem layout_linesOf (chars : List Char) :
    (linesOf (String.ofList chars)).map Line.layout = layouts chars := by
  rw [linesOf, String.toList_ofList, layout_linesFrom, lines, List.filterMap_map, layouts]
  refine List.filterMap_congr fun piece _ => ?_
  rw [Function.comp_apply]
  split
  · rw [withoutLineEnd, layout?_withoutLast (by decide), layout?_withoutLast (by decide)]
  · rfl

theorem Edit.shift {chars others : List Char} (h : Edit chars others) :
    ∃ depth, List.Forall₂ (Line.IsShift depth) (linesOf (String.ofList chars))
      (linesOf (String.ofList others)) := by
  obtain ⟨depth, hdepth⟩ := h.layouts
  rw [← layout_linesOf, ← layout_linesOf, List.map_map] at hdepth
  have hequal := List.forall₂_eq_eq_eq.symm ▸ hdepth.symm
  rw [List.forall₂_map_left_iff, List.forall₂_map_right_iff] at hequal
  refine ⟨depth, hequal.imp fun line other hlayout => ?_⟩
  obtain ⟨hindent, htext⟩ := Prod.mk.inj hlayout
  exact ⟨htext.symm, hindent.symm⟩

theorem Edit.readBlock {chars others : List Char} (h : Edit chars others) (value : Json.Value) :
    readBlock (String.ofList chars) = .ok value ↔ readBlock (String.ofList others) = .ok value := by
  obtain ⟨depth, hshift⟩ := h.shift
  have hmap : ∀ result : Except DocumentFault Node,
      result.map Node.toJson = .ok value ↔ ∃ node, result = .ok node ∧ node.toJson = value := by
    intro result
    cases result <;> simp [Except.map]
  simp only [Rules.readBlock, nodeOfText, hmap, nodeOfLines_shift hshift]

-- Layout does not change what a block says, nor whether it says anything.
theorem readBlock_relaid {text other : String} (h : Relaid text other) (value : Json.Value) :
    readBlock text = .ok value ↔ readBlock other = .ok value := by
  have hchars : ∀ {chars others}, Relation.EqvGen Edit chars others →
      (readBlock (String.ofList chars) = .ok value ↔
        readBlock (String.ofList others) = .ok value) := by
    intro chars others h
    induction h with
    | rel chars others h => exact h.readBlock value
    | refl chars => exact Iff.rfl
    | symm chars others _ ih => exact ih.symm
    | trans chars others last _ _ ih ih' => exact ih.trans ih'
  have hread := hchars h
  rwa [String.ofList_toList, String.ofList_toList] at hread

-- A comment, a blank line, trailing blanks, a carriage return and two blanks before each line.
theorem readBlock_relaid_filename :
    let value : Json.Value := .object [("filename", .object [("pattern", .string "x")])]
    let text := "filename:\n  pattern: \"x\"\n"
    let other := "# Names\n  filename:\r\n\n    pattern: \"x\"\t \n"
    Relaid text other ∧ readBlock text = .ok value ∧ readBlock other = .ok value := by
  intro value text other
  have hindent : indentBy 2 text.toList = "  filename:\n    pattern: \"x\"\n".toList := by decide
  have hdeeper : Edit text.toList "  filename:\n    pattern: \"x\"\n".toList := hindent ▸ .indent
  have hcomment : Edit "  filename:\n    pattern: \"x\"\n".toList
      "# Names\n  filename:\n    pattern: \"x\"\n".toList :=
    @Edit.silent [] "  filename:\n    pattern: \"x\"\n".toList "# Names".toList startsLine_nil
      (by decide) (by decide)
  have hreturn : Edit "# Names\n  filename:\n    pattern: \"x\"\n".toList
      "# Names\n  filename:\r\n    pattern: \"x\"\n".toList :=
    @Edit.lineEnd "# Names\n  filename:".toList "    pattern: \"x\"\n".toList
  have hblank : Edit "# Names\n  filename:\r\n    pattern: \"x\"\n".toList
      "# Names\n  filename:\r\n\n    pattern: \"x\"\n".toList :=
    @Edit.silent "# Names\n  filename:\r\n".toList "    pattern: \"x\"\n".toList []
      (by simp [StartsLine]) (by decide) (by decide)
  have htrailing : Edit "# Names\n  filename:\r\n\n    pattern: \"x\"\n".toList
      "# Names\n  filename:\r\n\n    pattern: \"x\"\t \n".toList :=
    @Edit.trailing "# Names\n  filename:\r\n\n    pattern: \"x\"".toList "\t ".toList ['\n']
      (by simp [EndsLine])
      (List.forall_mem_cons.mpr ⟨by decide, List.forall_mem_singleton.mpr (by decide)⟩)
  have hrelaid : Relaid text other :=
    .trans _ _ _ (.rel _ _ hdeeper) <| .trans _ _ _ (.rel _ _ hcomment) <|
      .trans _ _ _ (.rel _ _ hreturn) <| .trans _ _ _ (.rel _ _ hblank) (.rel _ _ htrailing)
  have hread : readBlock text = .ok value := by
    decide +kernel
  exact ⟨hrelaid, hread, (readBlock_relaid hrelaid value).mp hread⟩

end NoteVault.Rules
