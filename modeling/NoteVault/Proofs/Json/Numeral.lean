import NoteVault.Proofs.Json.Token

namespace NoteVault.Json

open Decimal Text

variable {chars taken rest other : List Char}

-- Nothing of a number can go on with such a text.
def StartsOutside (p : Char → Bool) (rest : List Char) : Prop :=
  ∀ char ∈ rest.head?, p char = false

-- What follows a value inside a document.
def Closes (rest : List Char) : Prop :=
  ∀ char ∈ rest.head?, char = ',' ∨ char = ']' ∨ char = '\x7d' ∨ isGap char = true

def isNumberChar (char : Char) : Bool :=
  isDigit char || char == '.' || char == 'e' || char == 'E' || char == '-' || char == '+'

theorem isNumberChar_of_isGap {char : Char} (h : isGap char = true) : isNumberChar char = false := by
  simp only [isGap, Bool.or_eq_true, beq_iff_eq] at h
  rcases h with ((rfl | rfl) | rfl) | rfl <;> decide

theorem Closes.startsOutside (h : Closes rest) : StartsOutside isNumberChar rest := by
  intro char hc
  rcases h char hc with rfl | rfl | rfl | hgap
  · decide
  · decide
  · decide
  · exact isNumberChar_of_isGap hgap

theorem StartsOutside.mono {p q : Char → Bool} (h : StartsOutside p rest)
    (himp : ∀ char, p char = false → q char = false) : StartsOutside q rest :=
  fun char hc => himp char (h char hc)

theorem takeWhile_append_of_outside {p : Char → Bool} (htaken : ∀ char ∈ taken, p char = true)
    (h : StartsOutside p rest) : (taken ++ rest).takeWhile p = taken := by
  rw [List.takeWhile_append_of_pos htaken]
  cases rest with
  | nil => simp
  | cons char rest => rw [List.takeWhile_cons_of_neg (by simp [h char rfl]), List.append_nil]

theorem dropWhile_append_of_outside {p : Char → Bool} (htaken : ∀ char ∈ taken, p char = true)
    (h : StartsOutside p rest) : (taken ++ rest).dropWhile p = rest := by
  rw [List.dropWhile_append_of_pos htaken]
  cases rest with
  | nil => rfl
  | cons char rest => exact List.dropWhile_cons_of_neg (by simp [h char rfl])

theorem readDigits_append (htaken : ∀ char ∈ taken, isDigit char = true)
    (h : StartsOutside isDigit rest) : readDigits (taken ++ rest) = (taken.map digitValue, rest) := by
  rw [readDigits, takeWhile_append_of_outside htaken h, dropWhile_append_of_outside htaken h]

section

variable {value : Nat}

theorem isDigit_of_mem_toDigits {char : Char} (h : char ∈ Nat.toDigits 10 value) :
    isDigit char = true := by
  have hd := Nat.isDigit_of_mem_toDigits (by decide) (by decide) h
  simpa [Char.isDigit, isDigit, Char.le_def] using hd

theorem digitValue_toDigits (value : Nat) :
    ((Nat.toDigits 10 value).map digitValue).foldl (fun total digit => total * 10 + digit) 0 =
      value := by
  rw [List.foldl_map, ← digitsValue, digitsValue_eq, Nat.ofDigitChars_ten_toDigits]

-- No zero stands before other digits.
theorem digitValue_head_toDigits (hpos : 0 < value) :
    ∃ first rest, (Nat.toDigits 10 value).map digitValue = first :: rest ∧ first ≠ 0 := by
  induction value using Nat.strongRecOn with
  | ind value ih =>
      by_cases hsmall : value < 10
      · have hdigit : ∀ digit < 10, 0 < digit → digitValue digit.digitChar ≠ 0 := by decide
        exact ⟨_, [], by rw [Nat.toDigits_of_lt_base hsmall]; rfl, hdigit value hsmall hpos⟩
      · obtain ⟨first, rest, hrest, hfirst⟩ := ih (value / 10) (by omega) (by omega)
        refine ⟨first, rest ++ [digitValue (value % 10).digitChar], ?_, hfirst⟩
        rw [Nat.toDigits_of_base_le (by decide) (by omega), List.map_append, hrest]
        rfl

theorem readWhole_toDigits (value : Nat) (h : StartsOutside isDigit rest) :
    readWhole (Nat.toDigits 10 value ++ rest) =
      some ((Nat.toDigits 10 value).map digitValue, rest) := by
  rw [readWhole, readDigits_append (fun _ hc => isDigit_of_mem_toDigits hc) h]
  rcases Nat.eq_zero_or_pos value with rfl | hpos
  · rfl
  · obtain ⟨first, others, hdigits, hfirst⟩ := digitValue_head_toDigits hpos
    rw [hdigits]
    split
    · rename_i heq
      cases heq
    · rename_i heq
      exact absurd (List.cons.inj (Prod.mk.inj heq).1).1 hfirst
    · rename_i heq
      obtain ⟨rfl, rfl⟩ := Prod.mk.inj heq
      rfl

theorem le_foldl_digits (digits : List Nat) (start : Nat) :
    start ≤ digits.foldl (fun total digit => total * 10 + digit) start := by
  induction digits generalizing start with
  | nil => exact Nat.le_refl start
  | cons digit digits ih =>
      have hnext := ih (start * 10 + digit)
      simp only [List.foldl_cons]
      omega

-- Digits whose number fits in a word are all taken.
theorem takeDigits_eq {digits : List Nat} {start : Nat}
    (h : digits.foldl (fun total digit => total * 10 + digit) start ≤ greatestWord) :
    takeDigits start digits =
      (digits.foldl (fun total digit => total * 10 + digit) start, []) := by
  induction digits generalizing start with
  | nil => rfl
  | cons digit digits ih =>
      have hnext := le_foldl_digits digits (start * 10 + digit)
      rw [List.foldl_cons] at h
      rw [takeDigits, if_pos (Nat.le_trans hnext h), ih h]
      rfl

theorem readUnsigned_toDigits (negative : Bool) (value : Nat)
    (h : StartsOutside isNumberChar rest) :
    readUnsigned negative (Nat.toDigits 10 value ++ rest) =
      some (⟨negative, (Nat.toDigits 10 value).map digitValue, [], false, none⟩, rest) := by
  have hwhole := readWhole_toDigits value (h.mono fun char hc => by
    simp only [isNumberChar, Bool.or_eq_false_iff] at hc
    exact hc.1.1.1.1.1)
  have hfraction : readFraction rest = some (none, rest) := by
    unfold readFraction
    split
    · have hpoint := h '.' rfl
      cases hpoint
    · rfl
  have hexponent : readExponent rest = some (none, rest) := by
    cases rest with
    | nil => rfl
    | cons char rest =>
        have hchar := h char rfl
        simp only [isNumberChar, Bool.or_eq_false_iff, beq_eq_false_iff_ne] at hchar
        unfold readExponent
        exact if_neg (not_or.mpr ⟨hchar.1.1.1.2, hchar.1.1.2⟩)
  simp only [readUnsigned, hwhole, hfraction, hexponent, Option.bind_eq_bind, Option.bind_some]
  rfl

end

-- The number is read back wherever it stands in a document.
def Number.ReadsBack (number : Number) : Prop :=
  ∀ rest, Closes rest → readNumber (number.chars ++ rest) = some (number, rest)

theorem toDigits_ne_cons_minus (value : Nat) (rest tail : List Char) :
    Nat.toDigits 10 value ++ rest ≠ '-' :: tail := by
  intro h
  obtain ⟨first, others, hdigits⟩ := List.exists_cons_of_ne_nil (Nat.toDigits_ne_nil (n := value) (b := 10))
  have hfirst : isDigit first = true := isDigit_of_mem_toDigits (by rw [hdigits]; simp)
  rw [hdigits, List.cons_append] at h
  rw [(List.cons.inj h).1] at hfirst
  cases hfirst

theorem Number.readsBack_integer {value : Int} (h : FrontMatter.isWord value = true) :
    (Number.integer value).ReadsBack := by
  intro rest hrest
  have hword : -(Nat.pow 2 63 : Int) ≤ value ∧ value < (Nat.pow 2 64 : Int) := by
    simpa [FrontMatter.isWord] using h
  have hgreatest : greatestWord = 18446744073709551615 := rfl
  have hhalf : Nat.pow 2 63 = 9223372036854775808 := rfl
  have hfull : Nat.pow 2 64 = 18446744073709551616 := rfl
  rw [hhalf, hfull] at hword
  have htake : takeDigits 0 ((Nat.toDigits 10 value.natAbs).map digitValue) = (value.natAbs, []) := by
    rw [takeDigits_eq (by rw [digitValue_toDigits]; omega), digitValue_toDigits]
  simp only [Number.chars, integerChars]
  split
  · rename_i hneg
    rw [List.cons_append, readNumber, readNumeral, readUnsigned_toDigits true _ hrest.startsOutside]
    simp only [Option.bind_eq_bind, Option.bind_some, Numeral.value?, htake, Bool.not_false,
      Option.isNone_none, List.isEmpty_nil, Bool.and_self, if_true, Bool.not_true, Bool.false_eq_true,
      if_false]
    rw [if_neg (by omega)]
    have hvalue : -(value.natAbs : Int) = value := by omega
    simp only [Option.bind_some, hvalue, pure]
  · rename_i hneg
    have hnumeral : readNumeral (Nat.toDigits 10 value.natAbs ++ rest) =
        readUnsigned false (Nat.toDigits 10 value.natAbs ++ rest) := by
      rw [readNumeral.eq_def]
      split
      · rename_i heq
        exact absurd heq (toDigits_ne_cons_minus _ _ _)
      · rfl
    rw [readNumber, hnumeral, readUnsigned_toDigits false _ hrest.startsOutside]
    have hvalue : (value.natAbs : Int) = value := by omega
    simp only [Option.bind_eq_bind, Option.bind_some, Numeral.value?, htake, Bool.not_false,
      Option.isNone_none, List.isEmpty_nil, Bool.and_self, if_true, hvalue, pure]

end NoteVault.Json
