import NoteVault.Proofs.FrontMatter.Decimal
import NoteVault.Proofs.Json.Document
import NoteVault.Proofs.Json.Double
import NoteVault.Proofs.Text.Line
import NoteVault.Rules.Block
import NoteVault.Rules.Layout

namespace NoteVault

open Decimal Json Text

-- What can stand on a line of its own: a text without line ends that is visible at
-- both ends.
structure IsInline (chars : List Char) : Prop where
  ne_nil : chars ≠ []
  first : ∀ char ∈ chars.head?, isBlank char = false
  last : ∀ char ∈ chars.getLast?, isBlank char = false
  line : IsLine chars

variable {chars left right : List Char}

theorem IsInline.trim (h : IsInline chars) : trim chars = chars :=
  trim_eq_self h.first h.last

theorem IsInline.append (hleft : IsInline left) (hright : IsInline right)
    (middle : List Char) (hmiddle : IsLine middle) :
    IsInline (left ++ middle ++ right) := by
  refine ⟨by simp [hleft.ne_nil], fun char h => hleft.first char ?_,
    fun char h => hright.last char ?_, fun char h => ?_⟩
  · rwa [List.append_assoc, List.head?_append, Option.or_of_isSome] at h
    rw [List.isSome_head?]
    exact hleft.ne_nil
  · rwa [List.getLast?_append, Option.or_of_isSome] at h
    rw [List.getLast?_isSome]
    exact hright.ne_nil
  · rcases List.mem_append.mp h with h | h
    · exact (List.mem_append.mp h).elim (hleft.line char) (hmiddle char)
    · exact hright.line char h

-- A text without blanks and line ends in it.
theorem isInline_of_forall (hne : chars ≠ [])
    (h : ∀ char ∈ chars, isBlank char = false ∧ char ≠ '\n' ∧ char ≠ '\r') : IsInline chars :=
  ⟨hne, fun char hc => (h char (List.mem_of_head? hc)).1,
    fun char hc => (h char (List.mem_of_getLast? hc)).1, fun char hc => (h char hc).2⟩

theorem isInline_singleton {char : Char} (hblank : isBlank char = false)
    (hline : char ≠ '\n' ∧ char ≠ '\r') : IsInline [char] :=
  isInline_of_forall (List.cons_ne_nil _ _) fun _ h => List.mem_singleton.mp h ▸ ⟨hblank, hline⟩

namespace Json

theorem hexDigit_line : ∀ value < 16, hexDigit value ≠ '\n' ∧ hexDigit value ≠ '\r' := by
  decide

-- Line ends are written with a backslash.
theorem escapeChar_line (char : Char) : IsLine (escapeChar char) := by
  have hpair : ∀ {second : Char}, second ≠ '\n' ∧ second ≠ '\r' →
      IsLine ['\\', second] := by
    intro second hsecond other h
    rcases List.mem_cons.mp h with rfl | h
    · decide
    · exact List.mem_singleton.mp h ▸ hsecond
  unfold escapeChar
  split
  · exact hpair (by decide)
  split
  · exact hpair (by decide)
  split
  · exact hpair (by decide)
  split
  · exact hpair (by decide)
  split
  · exact hpair (by decide)
  split
  · exact hpair (by decide)
  split
  · exact hpair (by decide)
  split
  · rename_i hcode
    have hhigh := hexDigit_line (char.toNat / 16) (by omega)
    have hlow := hexDigit_line (char.toNat % 16) (by omega)
    simp only [IsLine, List.forall_mem_cons]
    exact ⟨by decide, by decide, by decide, by decide, hhigh, hlow, fun _ h => nomatch h⟩
  · rename_i _ _ _ _ hfeed _ hreturn _
    exact fun other h => List.mem_singleton.mp h ▸ ⟨hfeed, hreturn⟩

theorem isInline_quoteChars (chars : List Char) : IsInline (quoteChars chars) := by
  have hquote : IsInline ['"'] := isInline_singleton (by decide) (by decide)
  refine hquote.append hquote (chars.flatMap escapeChar) fun char h => ?_
  obtain ⟨other, -, hc⟩ := List.mem_flatMap.mp h
  exact escapeChar_line other char hc

theorem isNumberChar_of_mem_chars (number : Number) :
    ∀ char ∈ number.chars, isNumberChar char = true := by
  cases number with
  | double value => exact isNumberChar_of_mem_doubleChars value
  | integer value =>
      intro char h
      rw [Number.chars, integerChars] at h
      split at h
      · rcases List.mem_cons.mp h with rfl | h
        · rfl
        · exact isNumberChar_of_isDigit (isDigit_of_mem_toDigits h)
      · exact isNumberChar_of_isDigit (isDigit_of_mem_toDigits h)

theorem number_line (number : Number) : IsLine number.chars := by
  intro char h
  have hchar := isNumberChar_of_mem_chars number char h
  constructor
  · rintro rfl
    exact absurd hchar (by decide)
  · rintro rfl
    exact absurd hchar (by decide)

theorem isLine_between {first last : Char} {inner : List Char}
    (hfirst : first ≠ '\n' ∧ first ≠ '\r') (hinner : IsLine inner)
    (hlast : last ≠ '\n' ∧ last ≠ '\r') : IsLine (first :: inner ++ [last]) :=
  List.forall_mem_cons.mpr
    ⟨hfirst, List.forall_mem_append.mpr ⟨hinner, List.forall_mem_singleton.mpr hlast⟩⟩

theorem isLine_separated {separator : Char} {rest : List Char} (hleft : IsLine left)
    (hseparator : separator ≠ '\n' ∧ separator ≠ '\r') (hrest : IsLine rest) :
    IsLine (left ++ separator :: rest) :=
  List.forall_mem_append.mpr ⟨hleft, List.forall_mem_cons.mpr ⟨hseparator, hrest⟩⟩

mutual

-- The compact form of a document stands on one line, however deep the document is.
theorem compactChars_line : (value : Value) → IsLine value.compactChars
  | .null | .bool true | .bool false => by decide
  | .number number => number_line number
  | .string text => (isInline_quoteChars text.toList).line
  | .array items => isLine_between (by decide) (compactItems_line items) (by decide)
  | .object fields => isLine_between (by decide) (compactFields_line fields) (by decide)

theorem compactItems_line : (items : List Value) → IsLine (Value.compactItems items)
  | [] => fun _ h => nomatch h
  | [item] => compactChars_line item
  | item :: next :: items =>
      isLine_separated (compactChars_line item) (by decide) (compactItems_line (next :: items))

theorem compactFields_line : (fields : List (String × Value)) →
    IsLine (Value.compactFields fields)
  | [] => fun _ h => nomatch h
  | [(key, value)] =>
      isLine_separated (isInline_quoteChars key.toList).line (by decide) (compactChars_line value)
  | (key, value) :: next :: fields =>
      isLine_separated
        (isLine_separated (isInline_quoteChars key.toList).line (by decide) (compactChars_line value))
        (by decide) (compactFields_line (next :: fields))

end

theorem isInline_toDigits (value : Nat) : IsInline (Nat.toDigits 10 value) := by
  refine isInline_of_forall Nat.toDigits_ne_nil fun char h => ?_
  have hdigit : isDigit char = true := isDigit_of_mem_toDigits h
  refine ⟨isBlank_of_isDigit hdigit, ?_, ?_⟩
  · rintro rfl
    exact absurd hdigit (by decide)
  · rintro rfl
    exact absurd hdigit (by decide)

end Json

namespace Rules

theorem isInline_quote (text : String) : IsInline (quote text).toList := by
  rw [quote, String.toList_ofList]
  exact isInline_quoteChars text.toList

theorem isInline_writeList (values : List Value) : IsInline (writeList values).toList := by
  have hopen : IsInline ['['] := isInline_singleton (by decide) (by decide)
  have hclose : IsInline [']'] := isInline_singleton (by decide) (by decide)
  rw [writeList, Value.compact, String.toList_ofList]
  exact hopen.append hclose _ (compactItems_line values)

theorem isInline_length (length : Nat) : IsInline (toString length).toList := by
  rw [show toString length = length.repr from rfl, Nat.toList_repr]
  exact isInline_toDigits length

-- A text, a list or a length means on its line what was written.
theorem readScalar_quote (text : String) : readScalar (quote text).toList = .string text := by
  have hhead : (quote text).toList.head? = some '"' := by
    rw [quote, String.toList_ofList]
    rfl
  simp only [readScalar, hhead, true_or, if_true, String.ofList_toList, read_quote, Option.getD_some]

theorem readScalar_writeList {values : List Value} (h : read (writeList values) = some (.array values)) :
    readScalar (writeList values).toList = .array values := by
  have hhead : (writeList values).toList.head? = some '[' := by
    rw [writeList, Value.compact, String.toList_ofList]
    rfl
  simp only [readScalar, hhead, true_or, or_true, if_true, String.ofList_toList, h, Option.getD_some]

end Rules

namespace FrontMatter

-- Digits of a number that fits in a word are that number.
theorem coerce_toDigits {value : Nat} (h : value < Nat.pow 2 64) :
    coerce (Nat.toDigits 10 value) = .number (.integer value) := by
  have hword : isWord value = true := by
    have hfull : Nat.pow 2 64 = 18446744073709551616 := rfl
    have hhalf : Nat.pow 2 63 = 9223372036854775808 := rfl
    rw [hfull] at h
    simp only [isWord, hfull, hhalf, Bool.and_eq_true, decide_eq_true_eq]
    omega
  exact coerce_of_isDecimal (isDecimal_toDigits value) hword

end FrontMatter

namespace Rules

theorem readScalar_length {length : Nat} (h : length < Nat.pow 2 64) :
    readScalar (toString length).toList = .ofNat length := by
  obtain ⟨first, rest, hdigits⟩ :=
    List.exists_cons_of_ne_nil (Nat.toDigits_ne_nil (n := length) (b := 10))
  have hfirst : isDigit first = true := isDigit_of_mem_toDigits (by rw [hdigits]; simp)
  have hplain : ¬(first = '"' ∨ first = '[' ∨ first = '\x7b') := by
    rintro (rfl | rfl | rfl) <;> exact absurd hfirst (by decide)
  have hcoerce := FrontMatter.coerce_toDigits h
  rw [hdigits] at hcoerce
  rw [show toString length = length.repr from rfl, Nat.toList_repr, hdigits]
  simp only [readScalar, List.head?_cons, if_neg hplain, hcoerce]
  rfl

end Rules

end NoteVault
