import NoteVault.Json.Writer
import NoteVault.Proofs.FrontMatter.Cuts
import NoteVault.Proofs.FrontMatter.Decimal
import NoteVault.Proofs.FrontMatter.Fields

namespace NoteVault.FrontMatter

open Json Text

mutual

-- How a value is written on one line: keywords and integers plain, a text between two
-- quotes that it does not contain, the items of an array between brackets.
inductive InlineForm : List Char → Value → Prop
  | null : InlineForm ['n', 'u', 'l', 'l'] .null
  | yes : InlineForm ['t', 'r', 'u', 'e'] (.bool true)
  | no : InlineForm ['f', 'a', 'l', 's', 'e'] (.bool false)
  | integer {number : Int} (h : isWord number = true) :
    InlineForm (integerChars number) (.number (.integer number))
  | string {quote : Char} {text : List Char} (hquote : isQuote quote = true) (h : quote ∉ text) :
    InlineForm (quote :: (text ++ [quote])) (.string (String.ofList text))
  | empty {blanks : List Char} (h : ∀ char ∈ blanks, isBlank char = true) :
    InlineForm ('[' :: (blanks ++ [']'])) (.array [])
  | array {inner : List Char} {items : List Value} (h : InlineItems inner items) :
    InlineForm ('[' :: (inner ++ [']'])) (.array items)

-- One or more items with commas between them and any blanks around them.
inductive InlineItems : List Char → List Value → Prop
  | last {before chars after : List Char} {item : Value}
    (hbefore : ∀ char ∈ before, isBlank char = true) (h : InlineForm chars item)
    (hafter : ∀ char ∈ after, isBlank char = true) :
    InlineItems (before ++ (chars ++ after)) [item]
  | more {before chars after rest : List Char} {item : Value} {items : List Value}
    (hbefore : ∀ char ∈ before, isBlank char = true) (h : InlineForm chars item)
    (hafter : ∀ char ∈ after, isBlank char = true) (hrest : InlineItems rest items) :
    InlineItems (before ++ (chars ++ (after ++ ',' :: rest))) (item :: items)

end

mutual

-- Values whose leaves are null, booleans, integers of 64 bits and texts that lack one of
-- the quotes.
def isInline : Value → Bool
  | .null | .bool _ => true
  | .number (.integer value) => isWord value
  | .string text => !(text.toList.contains '"' && text.toList.contains '\'')
  | .array items => areInline items
  | .number (.double _) | .object _ => false

def areInline : List Value → Bool
  | [] => true
  | item :: items => isInline item && areInline items

end

variable {text : List Char} {number : Int}

theorem notMem_marks_of_isDigit {char : Char} (h : isDigit char = true) : char ∉ marks := by
  intro hmark
  simp only [marks, List.mem_cons, List.not_mem_nil, or_false] at hmark
  rcases hmark with rfl | rfl | rfl | rfl | rfl <;> exact absurd h (by decide)

theorem notMem_marks_of_isBlank {char : Char} (h : isBlank char = true) : char ∉ marks := by
  intro hmark
  simp only [marks, List.mem_cons, List.not_mem_nil, or_false] at hmark
  rcases hmark with rfl | rfl | rfl | rfl | rfl <;> exact absurd h (by decide)

theorem IsDecimal.notMem_marks (h : IsDecimal text number) : ∀ char ∈ text, char ∉ marks := by
  cases h with
  | plain _ h => exact fun char hc => notMem_marks_of_isDigit (h char hc)
  | negative _ h =>
      exact List.forall_mem_cons.mpr ⟨by decide, fun char hc => notMem_marks_of_isDigit (h char hc)⟩

theorem uncut_blanks (h : ∀ char ∈ text, isBlank char = true) (depth : Int) :
    Uncut none depth text none depth :=
  uncut_of_plain fun char hc => notMem_marks_of_isBlank (h char hc)

theorem uncut_close (depth : Int) : Uncut none (depth + 1) [']'] none depth := by
  refine .higher ?_
  rw [Int.add_sub_cancel]
  exact .nil

mutual

-- A comma of an array stands inside its brackets, and one of a text inside its quotes.
theorem InlineForm.uncut {chars : List Char} {value : Value} (h : InlineForm chars value)
    {depth : Int} (hdepth : 0 ≤ depth) : Uncut none depth chars none depth := by
  cases h with
  | null | yes | no => exact uncut_of_plain (by simp [marks])
  | integer h => exact uncut_of_plain (isDecimal_integerChars _).notMem_marks
  | string hquote h => exact uncut_quoted hquote h
  | empty h =>
      exact .deeper ((uncut_blanks h _).append (uncut_close depth))
  | array h =>
      have hitems := InlineItems.uncut h (show 0 < depth + 1 by omega)
      exact .deeper (hitems.append (uncut_close depth))

theorem InlineItems.uncut {chars : List Char} {items : List Value} (h : InlineItems chars items)
    {depth : Int} (hdepth : 0 < depth) : Uncut none depth chars none depth := by
  cases h with
  | last hbefore h hafter =>
      have hitem := InlineForm.uncut h (Int.le_of_lt hdepth)
      exact (uncut_blanks hbefore _).append (hitem.append (uncut_blanks hafter _))
  | more hbefore h hafter hrest =>
      have hitem := InlineForm.uncut h (Int.le_of_lt hdepth)
      have hcomma := Uncut.comma (Int.ne_of_gt hdepth) (InlineItems.uncut hrest hdepth)
      exact (uncut_blanks hbefore _).append (hitem.append ((uncut_blanks hafter _).append hcomma))

end

theorem inner?_between (first last : Char) (inner : List Char) :
    inner? (first :: (inner ++ [last])) = some (first, inner, last) := by
  cases inner with
  | nil => rfl
  | cons char inner =>
      have hdrop : (char :: (inner ++ [last])).dropLast = char :: inner := by
        rw [← List.cons_append, List.dropLast_concat]
      have hlast : (char :: (inner ++ [last])).getLastD char = last := by
        rw [← List.cons_append, List.getLastD_concat]
      rw [List.cons_append, inner?, hdrop, hlast]

theorem isBlank_of_isQuote {quote : Char} (h : isQuote quote = true) : isBlank quote = false := by
  simp only [isQuote, Bool.or_eq_true, beq_iff_eq] at h
  rcases h with rfl | rfl <;> decide

-- Between quotes every text is the value it shows.
theorem coerce_quoted {quote : Char} (h : isQuote quote = true) (inner : List Char) :
    coerce (quote :: (inner ++ [quote])) = .string (String.ofList inner) := by
  have hblank := isBlank_of_isQuote h
  have hunquoted : unquoted? (quote :: (inner ++ [quote])) = some inner := by
    simp [unquoted?, inner?_between, h]
  rw [coerce_eq, trim_between hblank hblank, hunquoted]

-- Between brackets stand the parts of an array.
theorem coerce_bracketed (inner : List Char) :
    coerce ('[' :: (inner ++ [']'])) =
      if (trim inner).isEmpty then .array [] else .array ((splitTopLevel none 0 inner).map coerce) := by
  have hunquoted : unquoted? ('[' :: (inner ++ [']'])) = none := by
    simp [unquoted?, inner?_between]
  have hkeyword : keyword? ('[' :: (inner ++ [']'])) = none := by
    simp [keyword?]
  have hbracketed : bracketed? ('[' :: (inner ++ [']'])) = some inner := by
    simp [bracketed?, inner?_between]
  rw [coerce_eq, trim_between (by decide) (by decide), hunquoted, hkeyword, hbracketed]

theorem coerce_blanks {before after : List Char} (hbefore : ∀ char ∈ before, isBlank char = true)
    (hafter : ∀ char ∈ after, isBlank char = true) (chars : List Char) :
    coerce (before ++ (chars ++ after)) = coerce chars := by
  rw [← coerce_trim, trim_blanks hbefore hafter, coerce_trim]

theorem IsDecimal.visible (h : IsDecimal text number) : ∃ char ∈ text, isBlank char = false := by
  cases h with
  | plain hne h =>
      obtain ⟨first, rest, rfl⟩ := List.exists_cons_of_ne_nil hne
      exact ⟨first, List.mem_cons_self, isBlank_of_isDigit (h first List.mem_cons_self)⟩
  | negative => exact ⟨_, List.mem_cons_self, by decide⟩

theorem InlineForm.visible {chars : List Char} {value : Value} (h : InlineForm chars value) :
    ∃ char ∈ chars, isBlank char = false := by
  cases h with
  | null | yes | no => exact ⟨_, List.mem_cons_self, by decide⟩
  | integer => exact (isDecimal_integerChars _).visible
  | string hquote => exact ⟨_, List.mem_cons_self, isBlank_of_isQuote hquote⟩
  | empty | array => exact ⟨_, List.mem_cons_self, by decide⟩

theorem InlineItems.trim_ne_nil {chars : List Char} {items : List Value}
    (h : InlineItems chars items) : trim chars ≠ [] := by
  intro htrim
  have hblank := (trim_eq_nil_iff _).mp htrim
  cases h with
  | last _ h _ | more _ h _ _ =>
      obtain ⟨char, hchar, hvisible⟩ := h.visible
      have hnot := hblank char (by simp [hchar])
      rw [hvisible] at hnot
      cases hnot

mutual

-- Each item is read from its own part.
theorem coerce_of_inlineForm {chars : List Char} {value : Value} (h : InlineForm chars value) :
    coerce chars = value := by
  cases h with
  | null | yes | no => rw [coerce_eq]; rfl
  | integer hword => exact coerce_of_isDecimal (isDecimal_integerChars _) hword
  | string hquote _ => exact coerce_quoted hquote _
  | empty h => rw [coerce_bracketed, (trim_eq_nil_iff _).mpr h]; rfl
  | array h =>
      have hvisible := List.isEmpty_eq_false_iff.mpr h.trim_ne_nil
      rw [coerce_bracketed, hvisible, if_neg Bool.false_ne_true, map_coerce_of_inlineItems h]

theorem map_coerce_of_inlineItems {chars : List Char} {items : List Value}
    (h : InlineItems chars items) : (splitTopLevel none 0 chars).map coerce = items := by
  cases h with
  | last hbefore h hafter =>
      have hwhole := (uncut_blanks hbefore 0).append ((h.uncut (Int.le_refl 0)).append (uncut_blanks hafter 0))
      rw [splitTopLevel_uncut hwhole, List.map_singleton, coerce_blanks hbefore hafter,
        coerce_of_inlineForm h]
  | @more before chars after rest item items hbefore h hafter hrest =>
      have hwhole := (uncut_blanks hbefore 0).append ((h.uncut (Int.le_refl 0)).append (uncut_blanks hafter 0))
      have hsplit := splitTopLevel_comma hwhole rest
      rw [List.append_assoc, List.append_assoc] at hsplit
      rw [hsplit, List.map_cons, coerce_blanks hbefore hafter, coerce_of_inlineForm h,
        map_coerce_of_inlineItems hrest]

end

mutual

theorem exists_inlineForm : (value : Value) → isInline value = true →
    ∃ chars, InlineForm chars value
  | .null, _ => ⟨_, .null⟩
  | .bool true, _ => ⟨_, .yes⟩
  | .bool false, _ => ⟨_, .no⟩
  | .number (.integer _), h => ⟨_, .integer h⟩
  | .string text, h => by
      by_cases hdouble : '"' ∈ text.toList
      · have hsingle : '\'' ∉ text.toList := by
          intro hsingle
          simp [isInline, hdouble, hsingle] at h
        have hform := InlineForm.string (show isQuote '\'' = true by decide) hsingle
        rw [String.ofList_toList] at hform
        exact ⟨_, hform⟩
      · have hform := InlineForm.string (show isQuote '"' = true by decide) hdouble
        rw [String.ofList_toList] at hform
        exact ⟨_, hform⟩
  | .array [], _ => ⟨_, .empty (List.forall_mem_nil _ : ∀ char ∈ [], _)⟩
  | .array (item :: items), h => by
      obtain ⟨inner, hinner⟩ := exists_inlineItems (item :: items) (List.cons_ne_nil _ _) h
      exact ⟨_, .array hinner⟩

theorem exists_inlineItems : (items : List Value) → items ≠ [] → areInline items = true →
    ∃ chars, InlineItems chars items
  | [], hne, _ => absurd rfl hne
  | [item], _, h => by
      rw [areInline, Bool.and_eq_true] at h
      obtain ⟨chars, hitem⟩ := exists_inlineForm item h.1
      have hnone : ∀ char ∈ ([] : List Char), isBlank char = true := List.forall_mem_nil _
      exact ⟨_, .last hnone hitem hnone⟩
  | item :: next :: items, _, h => by
      rw [areInline, Bool.and_eq_true] at h
      obtain ⟨chars, hitem⟩ := exists_inlineForm item h.1
      obtain ⟨rest, hrest⟩ := exists_inlineItems (next :: items) (List.cons_ne_nil _ _) h.2
      have hnone : ∀ char ∈ ([] : List Char), isBlank char = true := List.forall_mem_nil _
      exact ⟨_, .more hnone hitem hnone hrest⟩

end

-- Such values can be written on one line, and whatever blanks and quotes are chosen, the
-- line is read as the value.
theorem coerce_inlineForm {value : Value} (h : isInline value = true) :
    (∃ chars, InlineForm chars value) ∧ ∀ chars, InlineForm chars value → coerce chars = value :=
  ⟨exists_inlineForm value h, fun _ hform => coerce_of_inlineForm hform⟩

-- Arrays in an array, an empty one among them, and texts that look like marks, words and
-- numbers.
theorem coerce_inlineForm_nested :
    let value : Value := .array [.array [], .string "a, ]'b", .array [.null, .bool true,
      .number (.integer (-7))], .string "42"]
    isInline value = true ∧ (∃ chars, InlineForm chars value) ∧
      InlineForm "[[ ],\"a, ]'b\" , [null,true, -7],'42']".toList value ∧
        coerceText "[[ ],\"a, ]'b\" , [null,true, -7],'42']" = value := by
  intro value
  have hvalue : isInline value = true := by decide
  have hnone : ∀ char ∈ ([] : List Char), isBlank char = true := List.forall_mem_nil _
  have hblank : ∀ char ∈ [' '], isBlank char = true := List.forall_mem_singleton.mpr (by decide)
  have hempty : InlineForm "[ ]".toList (.array []) := .empty hblank
  have htext : InlineForm "\"a, ]'b\"".toList (.string "a, ]'b") :=
    @InlineForm.string '"' "a, ]'b".toList (by decide) (by decide)
  have hdigits : integerChars (-7) = "-7".toList := by decide
  have hseven : InlineForm "-7".toList (.number (.integer (-7))) :=
    hdigits ▸ .integer (by decide)
  have hinner : InlineForm "[null,true, -7]".toList
      (.array [.null, .bool true, .number (.integer (-7))]) :=
    .array (.more hnone .null hnone (.more hnone .yes hnone (.last hblank hseven hnone)))
  have hnumber : InlineForm "'42'".toList (.string "42") :=
    @InlineForm.string '\'' "42".toList (by decide) (by decide)
  have hform : InlineForm "[[ ],\"a, ]'b\" , [null,true, -7],'42']".toList value :=
    .array (.more hnone hempty hnone (.more hnone htext hblank (.more hblank hinner hnone
      (.last hnone hnumber hnone))))
  obtain ⟨hexists, hread⟩ := coerce_inlineForm hvalue
  exact ⟨hvalue, hexists, hform, hread _ hform⟩

end NoteVault.FrontMatter
