import Mathlib.Data.List.TakeWhile
import NoteVault.Proofs.Json.Spelling

namespace NoteVault.Json

open Decimal Text

variable {chars after : List Char}

-- Each reader of a part of a number takes off a front that does not depend on what
-- follows, as long as that cannot belong to the part.
theorem readDigits_front (chars : List Char) : ∃ taken, chars = taken ++ (readDigits chars).2 ∧
    ∀ rest, StartsOutside isDigit rest → readDigits (taken ++ rest) = ((readDigits chars).1, rest) := by
  refine ⟨chars.takeWhile isDigit, List.takeWhile_append_dropWhile.symm, fun rest hrest => ?_⟩
  exact readDigits_append (fun char hc => List.mem_takeWhile_imp hc) hrest

theorem readWhole_eq_some {digits : List Nat} : readWhole chars = some (digits, after) ↔
    readDigits chars = (digits, after) ∧ digits ≠ [] ∧ ∀ next others, digits ≠ 0 :: next :: others := by
  rw [readWhole]
  split
  · rename_i heq
    simp only [heq, reduceCtorEq, Prod.mk.injEq, false_iff, not_and]
    rintro ⟨hnil, -⟩ hne
    exact absurd hnil.symm hne
  · rename_i heq
    simp only [heq, reduceCtorEq, Prod.mk.injEq, false_iff, not_and]
    rintro ⟨hzero, -⟩ - hno
    exact hno _ _ hzero.symm
  · rename_i found left hnil hzero heq
    rw [heq, Option.some_inj]
    refine ⟨fun h => ⟨h, ?_⟩, fun h => h.1⟩
    obtain ⟨rfl, rfl⟩ := Prod.mk.inj h
    exact ⟨hnil, hzero⟩

theorem readWhole_front {digits : List Nat} (h : readWhole chars = some (digits, after)) :
    ∃ taken, chars = taken ++ after ∧
      ∀ rest, StartsOutside isDigit rest → readWhole (taken ++ rest) = some (digits, rest) := by
  obtain ⟨taken, hchars, hread⟩ := readDigits_front chars
  obtain ⟨hdigits, hvalid⟩ := readWhole_eq_some.mp h
  rw [hdigits] at hchars hread
  exact ⟨taken, hchars, fun rest hrest => readWhole_eq_some.mpr ⟨hread rest hrest, hvalid⟩⟩

theorem readFraction_front {fraction : Option (List Nat)}
    (h : readFraction chars = some (fraction, after)) :
    ∃ taken, chars = taken ++ after ∧ (∀ char ∈ taken.head?, char = '.') ∧
      ∀ rest, StartsOutside (fun char => isDigit char || char == '.') rest →
        readFraction (taken ++ rest) = some (fraction, rest) := by
  have hdigit : ∀ {rest}, StartsOutside (fun char => isDigit char || char == '.') rest →
      StartsOutside isDigit rest :=
    fun hrest => hrest.mono fun char hc => (Bool.or_eq_false_iff.mp hc).1
  rw [readFraction.eq_def] at h
  split at h
  · rename_i tail
    obtain ⟨taken, hchars, hread⟩ := readDigits_front tail
    rcases hdigits : readDigits tail with ⟨found, left⟩
    rw [hdigits] at h hchars hread
    match found, h with
    | digit :: others, h =>
        obtain ⟨rfl, rfl⟩ := Prod.mk.inj (Option.some.inj h)
        refine ⟨'.' :: taken, by rw [hchars]; rfl, fun char hc => (Option.some.inj hc).symm,
          fun rest hrest => ?_⟩
        rw [List.cons_append, readFraction, hread rest (hdigit hrest)]
  · obtain ⟨rfl, rfl⟩ := Prod.mk.inj (Option.some.inj h)
    refine ⟨[], rfl, (fun _ hc => nomatch hc), fun rest hrest => ?_⟩
    rw [List.nil_append, readFraction.eq_def]
    split
    · exact absurd (hrest '.' rfl) (by decide)
    · rfl

theorem readExponentDigits_front {negative : Bool} {exponent : Option (Bool × List Nat)}
    (h : readExponentDigits negative chars = some (exponent, after)) :
    ∃ taken, chars = taken ++ after ∧ (∃ first tail, taken = first :: tail ∧ isDigit first = true) ∧
      ∀ rest, StartsOutside isDigit rest →
        readExponentDigits negative (taken ++ rest) = some (exponent, rest) := by
  have hchars : chars.takeWhile isDigit ++ chars.dropWhile isDigit = chars :=
    List.takeWhile_append_dropWhile
  have hdigits : ∀ char ∈ chars.takeWhile isDigit, isDigit char = true :=
    fun char hc => List.mem_takeWhile_imp hc
  rw [readExponentDigits, readDigits] at h
  cases htaken : chars.takeWhile isDigit with
  | nil =>
      rw [htaken] at h
      cases h
  | cons first tail =>
      rw [htaken] at h hchars hdigits
      obtain ⟨rfl, rfl⟩ := Prod.mk.inj (Option.some.inj h)
      refine ⟨first :: tail, hchars.symm, ⟨first, tail, rfl, hdigits first List.mem_cons_self⟩,
        fun rest hrest => ?_⟩
      rw [readExponentDigits, readDigits_append hdigits hrest]
      rfl

theorem readExponent_cons (mark : Char) (tail : List Char) :
    readExponent (mark :: tail) =
      if mark = 'e' ∨ mark = 'E' then
        match tail with
        | '+' :: rest => readExponentDigits false rest
        | '-' :: rest => readExponentDigits true rest
        | rest => readExponentDigits false rest
      else some (none, mark :: tail) := rfl

-- A digit is no sign.
theorem readExponent_digits {mark first : Char} (hmark : mark = 'e' ∨ mark = 'E')
    (hfirst : isDigit first = true) (rest : List Char) :
    readExponent (mark :: first :: rest) = readExponentDigits false (first :: rest) := by
  rw [readExponent_cons, if_pos hmark]
  split
  · rename_i heq
    rw [(List.cons.inj heq).1] at hfirst
    cases hfirst
  · rename_i heq
    rw [(List.cons.inj heq).1] at hfirst
    cases hfirst
  · rfl

theorem readExponent_front {exponent : Option (Bool × List Nat)}
    (h : readExponent chars = some (exponent, after)) :
    ∃ taken, chars = taken ++ after ∧ (∀ char ∈ taken.head?, char = 'e' ∨ char = 'E') ∧
      ∀ rest, StartsOutside isNumberChar rest →
        readExponent (taken ++ rest) = some (exponent, rest) := by
  have hdigit : ∀ {rest}, StartsOutside isNumberChar rest → StartsOutside isDigit rest :=
    fun hrest => hrest.mono fun char hc => by
      simp only [isNumberChar, Bool.or_eq_false_iff] at hc
      exact hc.1.1.1.1.1
  have hempty : ∀ char ∈ ([] : List Char).head?, char = 'e' ∨ char = 'E' := by
    intro char hc
    cases hc
  have hnone : ∀ rest, StartsOutside isNumberChar rest → readExponent rest = some (none, rest) := by
    intro rest hrest
    cases rest with
    | nil => rfl
    | cons char rest =>
        have hchar := hrest char rfl
        simp only [isNumberChar, Bool.or_eq_false_iff, beq_eq_false_iff_ne] at hchar
        rw [readExponent_cons]
        exact if_neg (not_or.mpr ⟨hchar.1.1.1.2, hchar.1.1.2⟩)
  cases chars with
  | nil =>
      obtain ⟨rfl, rfl⟩ := Prod.mk.inj (Option.some.inj h)
      exact ⟨[], rfl, hempty, hnone⟩
  | cons mark tail =>
      rw [readExponent_cons] at h
      split at h
      · rename_i hmark
        have hhead : ∀ {taken : List Char}, ∀ char ∈ (mark :: taken).head?, char = 'e' ∨ char = 'E' :=
          fun char hc => (Option.some.inj hc) ▸ hmark
        split at h
        · obtain ⟨taken, rfl, -, hread⟩ := readExponentDigits_front h
          refine ⟨mark :: '+' :: taken, rfl, hhead, fun rest hrest => ?_⟩
          exact (if_pos hmark).trans (hread rest (hdigit hrest))
        · obtain ⟨taken, rfl, -, hread⟩ := readExponentDigits_front h
          refine ⟨mark :: '-' :: taken, rfl, hhead, fun rest hrest => ?_⟩
          exact (if_pos hmark).trans (hread rest (hdigit hrest))
        · obtain ⟨taken, rfl, ⟨first, others, rfl, hfirst⟩, hread⟩ := readExponentDigits_front h
          refine ⟨mark :: first :: others, rfl, hhead, fun rest hrest => ?_⟩
          exact (readExponent_digits hmark hfirst _).trans (hread rest (hdigit hrest))
      · obtain ⟨rfl, rfl⟩ := Prod.mk.inj (Option.some.inj h)
        exact ⟨[], rfl, hempty, hnone⟩

theorem readUnsigned_front {negative : Bool} {numeral : Numeral}
    (h : readUnsigned negative chars = some (numeral, after)) :
    ∃ taken, chars = taken ++ after ∧ ∀ rest, StartsOutside isNumberChar rest →
      readUnsigned negative (taken ++ rest) = some (numeral, rest) := by
  obtain ⟨⟨whole, afterWhole⟩, hwhole, h⟩ := Option.bind_eq_some_iff.mp h
  obtain ⟨⟨fraction, afterFraction⟩, hfraction, h⟩ := Option.bind_eq_some_iff.mp h
  obtain ⟨⟨exponent, afterExponent⟩, hexponent, h⟩ := Option.bind_eq_some_iff.mp h
  obtain ⟨rfl, rfl⟩ := Prod.mk.inj (Option.some.inj h)
  obtain ⟨first, rfl, hfirst⟩ := readWhole_front hwhole
  obtain ⟨second, rfl, hpoint, hsecond⟩ := readFraction_front hfraction
  obtain ⟨third, rfl, hmark, hthird⟩ := readExponent_front hexponent
  refine ⟨first ++ (second ++ third), by simp only [List.append_assoc], fun rest hrest => ?_⟩
  -- each part ends where the next one begins
  have hthirdStarts : StartsOutside (fun char => isDigit char || char == '.') (third ++ rest) := by
    cases third with
    | nil =>
        refine hrest.mono fun char hc => ?_
        simp only [isNumberChar, Bool.or_eq_false_iff] at hc
        rw [hc.1.1.1.1.1, hc.1.1.1.1.2, Bool.or_self]
    | cons mark third =>
        intro char hc
        obtain rfl := Option.some.inj hc
        rcases hmark mark rfl with rfl | rfl <;> decide
  have hsecondStarts : StartsOutside isDigit (second ++ (third ++ rest)) := by
    cases second with
    | nil => exact hthirdStarts.mono fun char hc => (Bool.or_eq_false_iff.mp hc).1
    | cons point second =>
        intro char hc
        obtain rfl := Option.some.inj hc
        rw [hpoint point rfl]
        decide
  rw [List.append_assoc, List.append_assoc]
  refine Option.bind_eq_some_iff.mpr ⟨_, hfirst _ hsecondStarts, ?_⟩
  refine Option.bind_eq_some_iff.mpr ⟨_, hsecond _ hthirdStarts, ?_⟩
  exact Option.bind_eq_some_iff.mpr ⟨_, hthird rest hrest, rfl⟩

theorem readNumeral_front {numeral : Numeral} (h : readNumeral chars = some (numeral, after)) :
    ∃ taken, chars = taken ++ after ∧ ∀ rest, StartsOutside isNumberChar rest →
      readNumeral (taken ++ rest) = some (numeral, rest) := by
  rw [readNumeral.eq_def] at h
  split at h
  · obtain ⟨taken, rfl, hread⟩ := readUnsigned_front h
    exact ⟨'-' :: taken, rfl, hread⟩
  · rename_i hsign
    obtain ⟨taken, rfl, hread⟩ := readUnsigned_front h
    refine ⟨taken, rfl, fun rest hrest => ?_⟩
    have hfirst := hread rest hrest
    rw [readNumeral.eq_def]
    split
    · rename_i heq
      obtain ⟨first, tail, htaken, hdigit⟩ := readUnsigned_head hfirst
      rw [htaken] at heq
      rw [(List.cons.inj heq).1] at hdigit
      cases hdigit
    · exact hfirst

theorem readNumber_front {number : Number} (h : readNumber chars = some (number, after)) :
    ∃ taken, chars = taken ++ after ∧ ∀ rest, StartsOutside isNumberChar rest →
      readNumber (taken ++ rest) = some (number, rest) := by
  obtain ⟨⟨numeral, left⟩, hnumeral, h⟩ := Option.bind_eq_some_iff.mp h
  obtain ⟨value, hvalue, h⟩ := Option.bind_eq_some_iff.mp h
  obtain ⟨rfl, rfl⟩ := Prod.mk.inj (Option.some.inj h)
  obtain ⟨taken, rfl, hread⟩ := readNumeral_front hnumeral
  refine ⟨taken, rfl, fun rest hrest => ?_⟩
  refine Option.bind_eq_some_iff.mpr ⟨_, hread rest hrest, ?_⟩
  exact Option.bind_eq_some_iff.mpr ⟨_, hvalue, rfl⟩

theorem mem_dropTrailingZeros {digits : List Char} {exponent : Int} {char : Char}
    (h : char ∈ (dropTrailingZeros digits exponent).1) : char ∈ digits := by
  induction digits generalizing exponent with
  | nil => exact h
  | cons digit rest ih =>
      rw [dropTrailingZeros] at h
      split at h
      · exact List.mem_cons_of_mem _ (ih h)
      · exact h

theorem isDigit_of_mem_shortest {value : Binary64} {char : Char} (h : char ∈ value.shortest.digits) :
    isDigit char = true := by
  rw [Binary64.shortest] at h
  split at h
  · rw [List.mem_singleton.mp h]
    rfl
  · have hmem := mem_dropTrailingZeros (List.mem_reverse.mp h)
    exact isDigit_of_mem_toDigits (List.mem_reverse.mp hmem)

theorem isNumberChar_of_isDigit {char : Char} (h : isDigit char = true) : isNumberChar char = true := by
  simp only [isNumberChar, h, Bool.true_or]

section

variable {digits : List Char} (hdigits : ∀ char ∈ digits, isDigit char = true)
include hdigits

theorem isNumberChar_of_mem_positional {place : Int} :
    ∀ char ∈ positional digits place, isNumberChar char = true := by
  have hdigit : ∀ char ∈ digits, isNumberChar char = true :=
    fun char hc => isNumberChar_of_isDigit (hdigits char hc)
  have hzeros : ∀ count, ∀ char ∈ List.replicate count '0', isNumberChar char = true := by
    intro count char hc
    rw [List.eq_of_mem_replicate hc]
    rfl
  intro char h
  rw [positional] at h
  split at h
  · simp only [List.mem_cons, List.cons_append, List.mem_append] at h
    rcases h with rfl | rfl | h | h
    · rfl
    · rfl
    · exact hzeros _ char h
    · exact hdigit char h
  · dsimp only at h
    split at h
    · simp only [List.mem_append, List.mem_cons, List.not_mem_nil, or_false] at h
      rcases h with (h | h) | rfl | rfl
      · exact hdigit char h
      · exact hzeros _ char h
      · rfl
      · rfl
    · simp only [List.mem_append, List.mem_cons] at h
      rcases h with h | rfl | h
      · exact hdigit char (List.mem_of_mem_take h)
      · rfl
      · exact hdigit char (List.mem_of_mem_drop h)

theorem isNumberChar_of_mem_scientific {exponent : Int} :
    ∀ char ∈ scientific digits exponent, isNumberChar char = true := by
  have hexponent : ∀ char ∈ exponentChars exponent, isNumberChar char = true := by
    intro char h
    simp only [exponentChars, List.mem_cons] at h
    rcases h with rfl | rfl | h
    · rfl
    · split <;> rfl
    · exact isNumberChar_of_isDigit (isDigit_of_mem_toDigits h)
  intro char h
  match digits, hdigits, h with
  | [digit], hdigits, h =>
      rcases List.mem_cons.mp h with rfl | h
      · exact isNumberChar_of_isDigit (hdigits char List.mem_cons_self)
      · exact hexponent char h
  | digit :: next :: others, hdigits, h =>
      simp only [scientific, List.mem_cons, List.cons_append, List.mem_append] at h
      rcases h with rfl | rfl | rfl | h | h
      · exact isNumberChar_of_isDigit (hdigits char List.mem_cons_self)
      · rfl
      · exact isNumberChar_of_isDigit (hdigits char (by simp))
      · exact isNumberChar_of_isDigit (hdigits char (by simp [h]))
      · exact hexponent char h

end

theorem isNumberChar_of_mem_doubleChars (value : Binary64) :
    ∀ char ∈ doubleChars value, isNumberChar char = true := by
  have hmagnitude : ∀ char ∈ magnitudeChars value, isNumberChar char = true := by
    intro char h
    rw [magnitudeChars] at h
    split at h
    · simp only [List.mem_cons, List.not_mem_nil, or_false] at h
      rcases h with rfl | rfl | rfl <;> rfl
    · have hdigits : ∀ char ∈ value.shortest.digits, isDigit char = true :=
        fun char hc => isDigit_of_mem_shortest hc
      dsimp only at h
      split at h
      · exact isNumberChar_of_mem_positional hdigits char h
      · exact isNumberChar_of_mem_scientific hdigits char h
  intro char h
  rw [doubleChars] at h
  split at h
  · rcases List.mem_cons.mp h with rfl | h
    · rfl
    · exact hmagnitude char h
  · exact hmagnitude char h

theorem readNumber_of_readValue {fuel depth : Nat} {number : Number}
    (h : readValue (fuel + 1) depth chars = some (.number number, after)) :
    readNumber (skipGap chars) = some (number, after) := by
  rw [readValue] at h
  split at h
  · cases h
  · cases h
  · cases h
  · obtain ⟨read, -, heq⟩ := Option.map_eq_some_iff.mp h
    cases heq
  · split at h
    · cases h
    · split at h
      · cases h
      · obtain ⟨read, -, heq⟩ := Option.map_eq_some_iff.mp h
        cases heq
  · split at h
    · cases h
    · split at h
      · cases h
      · obtain ⟨read, -, heq⟩ := Option.map_eq_some_iff.mp h
        cases heq
  · obtain ⟨⟨found, left⟩, hread, heq⟩ := Option.map_eq_some_iff.mp h
    obtain ⟨hnumber, rfl⟩ := Prod.mk.inj heq
    obtain rfl := Value.number.inj hnumber
    exact hread

theorem readNumber_of_read {text : String} {number : Number}
    (h : read text = some (.number number)) :
    ∃ rest, readNumber (skipGap text.toList) = some (number, rest) ∧ skipGap rest = [] := by
  obtain ⟨value, hwritten, hvalue⟩ := Option.map_eq_some_iff.mp h
  have hnumber : value = .number number := by
    cases value with
    | number => exact hvalue
    | null | bool | string | array | object => cases hvalue
  subst hnumber
  simp only [readWritten] at hwritten
  split at hwritten
  · rename_i found rest hread
    split at hwritten
    · rename_i hempty
      obtain rfl := Option.some.inj hwritten
      exact ⟨rest, readNumber_of_readValue hread, List.isEmpty_iff.mp hempty⟩
    · cases hwritten
  · cases hwritten

theorem skipGap_eq_self (h : ∀ char ∈ chars, isNumberChar char = true) : skipGap chars = chars := by
  cases chars with
  | nil => rfl
  | cons char chars =>
      refine skipGap_cons ?_ chars
      rw [Bool.eq_false_iff]
      intro hgap
      have hnumber := h char List.mem_cons_self
      rw [isNumberChar_of_isGap hgap] at hnumber
      cases hnumber

-- A double that is read back where it stands alone is read back in every document.
theorem Number.readsBack_double {value : Binary64}
    (h : read (Value.number (.double value)).compact = some (.number (.double value))) :
    (Number.double value).ReadsBack := by
  obtain ⟨after, hread, hgap⟩ := readNumber_of_read h
  have hchars : (Value.number (.double value)).compact.toList = doubleChars value :=
    String.toList_ofList
  rw [hchars, skipGap_eq_self (isNumberChar_of_mem_doubleChars value)] at hread
  obtain ⟨taken, htaken, hfront⟩ := readNumber_front hread
  -- nothing is left, since no character of a number is a blank
  have hafter : after = [] := by
    rw [← hgap]
    refine (skipGap_eq_self fun char hc => isNumberChar_of_mem_doubleChars value char ?_).symm
    rw [htaken]
    exact List.mem_append_right taken hc
  rw [hafter, List.append_nil] at htaken
  intro rest hrest
  have hnumber : (Number.double value).chars = taken := htaken
  rw [hnumber]
  exact hfront rest hrest.startsOutside

end NoteVault.Json
