import Mathlib.Data.List.TakeWhile
import NoteVault.Proofs.Json.Numeral
import NoteVault.Proofs.Text.Line

namespace NoteVault.FrontMatter

open Json Text

-- A whole number in digits, with a hyphen before them for one that is not positive.
inductive IsDecimal : List Char → Int → Prop
  | plain {digits : List Char} (hne : digits ≠ []) (h : ∀ char ∈ digits, isDigit char = true) :
    IsDecimal digits (digitsValue digits)
  | negative {digits : List Char} (hne : digits ≠ []) (h : ∀ char ∈ digits, isDigit char = true) :
    IsDecimal ('-' :: digits) (-digitsValue digits)

variable {chars digits rest : List Char} {first : Char} {number : Int}

theorem unsignedNumber?_of_digits (negative : Bool) (hne : digits ≠ [])
    (h : ∀ char ∈ digits, isDigit char = true)
    (hword : isWord (if negative then -(digitsValue digits : Int) else digitsValue digits) = true) :
    unsignedNumber? negative digits =
      some (.integer (if negative then -(digitsValue digits : Int) else digitsValue digits)) := by
  have htake : digits.takeWhile isDigit = digits := List.takeWhile_eq_self_iff.mpr h
  have hdrop : digits.dropWhile isDigit = [] := List.dropWhile_eq_nil_iff.mpr h
  have hempty : ¬ digits.isEmpty = true := by simpa using hne
  simp only [unsignedNumber?, htake, hdrop, if_neg hempty, hword, if_true]

theorem number?_of_isDigit (h : isDigit first = true) :
    number? (first :: rest) = unsignedNumber? false (first :: rest) := by
  unfold number?
  split
  · rename_i heq
    rw [(List.cons.inj heq).1] at h
    cases h
  · rfl

theorem inner?_first {inner : List Char} {opening closing : Char}
    (h : inner? (first :: rest) = some (opening, inner, closing)) : opening = first := by
  cases rest with
  | nil => cases h
  | cons next rest => exact (Prod.mk.inj (Option.some.inj h)).1.symm

theorem unquoted?_eq_none (h : isQuote first = false) (rest : List Char) :
    unquoted? (first :: rest) = none := by
  rw [unquoted?]
  split
  · rename_i hinner
    rw [inner?_first hinner]
    exact if_neg fun hquote => by simp [h] at hquote
  · rfl

theorem bracketed?_eq_none (h : first ≠ '[') (rest : List Char) :
    bracketed? (first :: rest) = none := by
  rw [bracketed?]
  split
  · rename_i hinner
    rw [inner?_first hinner]
    exact if_neg fun hopen => h hopen.1
  · rfl

-- A text that opens like a number is no quoted text, no keyword and no list.
theorem coerce_of_number? {found : Number}
    (hfirst : first ∉ ['"', '\'', '[', 't', 'f', 'n', '~'])
    (htrim : trim (first :: rest) = first :: rest)
    (hnumber : number? (first :: rest) = some found) :
    coerce (first :: rest) = .number found := by
  simp only [List.mem_cons, List.not_mem_nil, or_false, not_or] at hfirst
  obtain ⟨hdouble, hsingle, hbracket, ht, hf, hn, htilde⟩ := hfirst
  have hquote : isQuote first = false := by simp [isQuote, hdouble, hsingle]
  have hkeyword : keyword? (first :: rest) = none := by
    simp [keyword?, ht, hf, hn, htilde]
  rw [coerce_eq, htrim, unquoted?_eq_none hquote, hkeyword, bracketed?_eq_none hbracket, hnumber]

theorem IsDecimal.ne_nil (h : IsDecimal chars number) : chars ≠ [] ∧ chars ≠ ['[', ']'] := by
  cases h with
  | plain hne h =>
      refine ⟨hne, ?_⟩
      rintro rfl
      exact absurd (h '[' List.mem_cons_self) (by decide)
  | negative => exact ⟨List.cons_ne_nil _ _, by simp⟩

theorem isDecimal_toDigits (value : Nat) : IsDecimal (Nat.toDigits 10 value) value := by
  have hdigits : ∀ char ∈ Nat.toDigits 10 value, isDigit char = true :=
    fun _ hc => isDigit_of_mem_toDigits hc
  have h := IsDecimal.plain Nat.toDigits_ne_nil hdigits
  rwa [digitsValue_eq, Nat.ofDigitChars_ten_toDigits] at h

-- The usual form of an integer is one of them.
theorem isDecimal_integerChars (value : Int) : IsDecimal (integerChars value) value := by
  have hdigits : ∀ char ∈ Nat.toDigits 10 value.natAbs, isDigit char = true :=
    fun _ hc => isDigit_of_mem_toDigits hc
  rw [integerChars]
  split
  · have h := IsDecimal.negative Nat.toDigits_ne_nil hdigits
    rw [digitsValue_eq, Nat.ofDigitChars_ten_toDigits] at h
    rwa [show -(value.natAbs : Int) = value by omega] at h
  · have h := isDecimal_toDigits value.natAbs
    rwa [show (value.natAbs : Int) = value by omega] at h

-- A whole number of 64 bits is read as that number, with a sign and leading zeros or not.
theorem coerce_of_isDecimal (h : IsDecimal chars number) (hword : isWord number = true) :
    coerce chars = .number (.integer number) := by
  have hvisible : ∀ {char}, isDigit char = true → isBlank char = false := isBlank_of_isDigit
  cases h with
  | plain hne h =>
      obtain ⟨first, rest, rfl⟩ := List.exists_cons_of_ne_nil hne
      have hfirst : first ∉ ['"', '\'', '[', 't', 'f', 'n', '~'] := by
        intro hmem
        have hdigit := h first List.mem_cons_self
        simp only [List.mem_cons, List.not_mem_nil, or_false] at hmem
        rcases hmem with rfl | rfl | rfl | rfl | rfl | rfl | rfl <;> exact absurd hdigit (by decide)
      refine coerce_of_number? hfirst (trim_eq_self ?_ ?_) ?_
      · exact fun char hc => hvisible (h char (List.mem_of_head? hc))
      · exact fun char hc => hvisible (h char (List.mem_of_getLast? hc))
      · rw [number?_of_isDigit (h first List.mem_cons_self)]
        exact unsignedNumber?_of_digits false hne h hword
  | @negative digits hne h =>
      refine coerce_of_number? (by decide) (trim_eq_self ?_ ?_) ?_
      · intro char hc
        obtain rfl := Option.some.inj hc
        decide
      · intro char hc
        obtain ⟨first, rest, rfl⟩ := List.exists_cons_of_ne_nil hne
        rw [List.getLast?_cons_cons] at hc
        exact hvisible (h char (List.mem_of_getLast? hc))
      · exact unsignedNumber?_of_digits true hne h hword

end NoteVault.FrontMatter
