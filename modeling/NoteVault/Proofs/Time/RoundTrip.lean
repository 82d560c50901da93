import Mathlib.Algebra.Group.Nat.Defs
import NoteVault.Proofs.Text.Line
import NoteVault.Time.Rfc3339

namespace NoteVault

namespace Text

theorem digitsValue_eq (digits : List Char) : digitsValue digits = Nat.ofDigitChars 10 digits 0 := by
  simp only [digitsValue, Nat.ofDigitChars_eq_foldl, digitValue]
  congr
  funext total digit
  rw [Nat.mul_comm]
  rfl

theorem isBlank_of_isDigit {char : Char} (h : isDigit char = true) : isBlank char = false := by
  have hcode : 48 ≤ char.toNat ∧ char.toNat ≤ 57 := by
    simpa [isDigit, Char.le_def, UInt32.le_iff_toNat_le] using h
  rw [Bool.eq_false_iff]
  intro hblank
  simp only [isBlank, Bool.or_eq_true, Bool.and_eq_true, decide_eq_true_eq, beq_iff_eq] at hblank
  omega

end Text

namespace Time

open Text

theorem isDigit_of_mem_padded {width value : Nat} {char : Char} (h : char ∈ padded width value) :
    isDigit char = true := by
  rcases List.mem_append.mp h with h | h
  · rw [List.eq_of_mem_replicate h]
    rfl
  · have hd := Nat.isDigit_of_mem_toDigits (by decide) (by decide) h
    simpa [Char.isDigit, isDigit, Char.le_def] using hd

theorem length_padded {width value : Nat} (hw : 0 < width) (h : value < 10 ^ width) :
    (padded width value).length = width := by
  have hlen := (Nat.length_toDigits_le_iff (by decide) hw).mpr h
  simp only [padded, List.length_append, List.length_replicate]
  omega

theorem digitsValue_padded (width value : Nat) : digitsValue (padded width value) = value := by
  rw [digitsValue_eq, padded, Nat.ofDigitChars_append, Nat.ofDigitChars_replicate_zero, Nat.mul_zero,
    Nat.ofDigitChars_ten_toDigits]

theorem takeWhile_padded (width value : Nat) {rest : List Char}
    (hrest : ∀ char ∈ rest.head?, isDigit char = false) :
    (padded width value ++ rest).takeWhile isDigit = padded width value := by
  rw [List.takeWhile_append_of_pos fun char hc => isDigit_of_mem_padded hc]
  cases rest with
  | nil => simp
  | cons char rest =>
      rw [List.takeWhile_cons_of_neg (by simp [hrest char rfl]), List.append_nil]

-- A number in full width is read back, whatever follows it.
theorem number?_padded {least width value : Nat} (hw : 0 < width) (hleast : least ≤ width)
    (h : value < 10 ^ width) (rest : List Char) :
    number? least width (padded width value ++ rest) = some (value, rest) := by
  have hlen := length_padded hw h
  have htake : (padded width value ++ rest).take width = padded width value :=
    List.take_left' hlen
  have hdigits : (padded width value).takeWhile isDigit = padded width value := by
    simpa using @takeWhile_padded width value [] (by simp)
  rw [number?, htake, hdigits, hlen, if_neg (Nat.not_lt.mpr hleast), digitsValue_padded,
    List.drop_left' hlen]

theorem fraction?_padded {width value : Nat} (hw : 0 < width) (hle : width ≤ 9)
    (h : value < 10 ^ width) {rest : List Char} (hrest : ∀ char ∈ rest.head?, isDigit char = false) :
    fraction? ('.' :: (padded width value ++ rest)) = some (value * 10 ^ (9 - width), rest) := by
  have hlen := length_padded hw h
  have hempty : (padded width value).isEmpty = false := by
    rw [List.isEmpty_eq_false_iff, ← List.length_pos_iff, hlen]
    exact hw
  rw [fraction?, takeWhile_padded width value hrest, if_neg (by simp [hempty]),
    List.take_of_length_le (by omega), hlen, List.drop_left' hlen]
  simp only [digitsValue_padded, hlen, Nat.pow_eq]

-- Of the three widths the one is written that loses nothing.
theorem fraction?_fractionChars {nanosecond : Nat} (h : nanosecond < 10 ^ 9) {rest : List Char}
    (hrest : ∀ char ∈ rest.head?, isDigit char = false ∧ char ≠ '.') :
    fraction? (fractionChars nanosecond ++ rest) = some (nanosecond, rest) := by
  have hdigit : ∀ char ∈ rest.head?, isDigit char = false := fun char hc => (hrest char hc).1
  simp only [fractionChars]
  split
  · rename_i hzero
    cases rest with
    | nil => simp [fraction?, hzero]
    | cons char rest =>
        have hpoint := (hrest char rfl).2
        simp [fraction?, hzero, hpoint]
  · split
    · rw [List.cons_append, fraction?_padded (by decide) (by decide) (by omega) hdigit]
      congr 2
      omega
    · split
      · rw [List.cons_append, fraction?_padded (by decide) (by decide) (by omega) hdigit]
        congr 2
        omega
      · rw [List.cons_append, fraction?_padded (by decide) (by decide) h hdigit]
        congr 2
        omega

theorem daysInMonth_le (year : Int) (month : Nat) : daysInMonth year month ≤ 31 := by
  unfold daysInMonth
  split
  · split <;> omega
  · split <;> omega

namespace Instant

theorem ofLocal_zero {instant : Instant} (hh : instant.hour < 24) (hm : instant.minute < 60) :
    instant.ofLocal 0 = instant := by
  have hminutes : instant.minuteOfDay = ((instant.hour * 60 + instant.minute : Nat) : Int) := by
    simp [minuteOfDay]
  have hday : instant.hour * 60 + instant.minute < 1440 := by omega
  simp only [ofLocal, Int.sub_zero]
  rw [if_neg (by omega), if_pos (by omega), hminutes]
  have hrest : (((instant.hour * 60 + instant.minute : Nat) : Int) % 1440).toNat =
      instant.hour * 60 + instant.minute := by
    omega
  rw [hrest, show (instant.hour * 60 + instant.minute) / 60 = instant.hour by omega,
    show (instant.hour * 60 + instant.minute) % 60 = instant.minute by omega]

-- The written form of an instant in a year of four digits, part by part.
theorem chars_of_year {instant : Instant} (h : 0 ≤ instant.date.year ∧ instant.date.year ≤ 9999) :
    instant.chars =
      padded 4 instant.date.year.natAbs ++ '-' :: (padded 2 instant.date.month ++ '-' ::
        (padded 2 instant.date.day ++ 'T' :: (padded 2 instant.hour ++ ':' ::
          (padded 2 instant.minute ++ ':' :: (padded 2 instant.second ++
            (fractionChars instant.nanosecond ++ ['Z'])))))) := by
  simp only [chars, yearChars, h, and_self, ite_true, List.append_assoc, List.cons_append]

theorem reading?_of_isValid {instant : Instant} (hvalid : instant.isValid = true)
    (hyear : 0 ≤ instant.date.year ∧ instant.date.year ≤ 9999) :
    reading? instant.date.year.natAbs instant.date.month instant.date.day instant.hour instant.minute
      instant.second instant.nanosecond = some instant := by
  have hnat : ((instant.date.year.natAbs : Nat) : Int) = instant.date.year :=
    Int.natAbs_of_nonneg hyear.1
  have hgreatest : greatestYear = 262142 := rfl
  have hlow : -greatestYear ≤ instant.date.year := by omega
  have hhigh : instant.date.year ≤ greatestYear := by omega
  simp [reading?, hnat, hvalid, hlow, hhigh]

-- The numbers of an instant fit in the digits they are written with.
theorem bounds_of_isValid {instant : Instant} (hvalid : instant.isValid = true) :
    (instant.date.month < 100 ∧ instant.date.day < 100 ∧ instant.second < 100) ∧
      instant.hour < 24 ∧ instant.minute < 60 ∧ instant.nanosecond < 10 ^ 9 := by
  simp only [isValid, Date.isValid, Bool.and_eq_true, decide_eq_true_eq] at hvalid
  obtain ⟨⟨⟨⟨⟨⟨⟨-, hmonth⟩, -⟩, hday⟩, hhour⟩, hminute⟩, hsecond⟩, hnanosecond⟩ := hvalid
  have hmost := daysInMonth_le instant.date.year instant.date.month
  exact ⟨⟨by omega, by omega, by omega⟩, hhour, hminute, hnanosecond⟩

theorem fraction?_text {instant : Instant} (h : instant.nanosecond < 10 ^ 9) :
    fraction? (fractionChars instant.nanosecond ++ ['Z']) = some (instant.nanosecond, ['Z']) := by
  refine fraction?_fractionChars h fun char hc => ?_
  obtain rfl := Option.some.inj hc
  exact ⟨by decide, by decide⟩

-- An instant in a year of four digits is read back from its written form.
theorem ofText?_text {instant : Instant} (hvalid : instant.isValid = true)
    (hyear : 0 ≤ instant.date.year ∧ instant.date.year ≤ 9999) :
    ofText? instant.text = some instant := by
  obtain ⟨⟨hmonth, hday, hsecond⟩, hhour, hminute, hnanosecond⟩ := bounds_of_isValid hvalid
  have hreading := reading?_of_isValid hvalid hyear
  have htwo : ∀ value rest, value < 100 →
      number? 2 2 (padded 2 value ++ rest) = some (value, rest) :=
    fun value rest h => number?_padded (by decide) (by decide) h rest
  have hfour : ∀ rest, number? 4 4 (padded 4 instant.date.year.natAbs ++ rest) =
      some (instant.date.year.natAbs, rest) :=
    number?_padded (by decide) (by decide) (by omega)
  have hfraction := fraction?_text hnanosecond
  have hdash : ∀ rest, expect? '-' ('-' :: rest) = some rest := fun rest => rfl
  have hcolon : ∀ rest, expect? ':' (':' :: rest) = some rest := fun rest => rfl
  have hletter : ∀ rest, separator? ('T' :: rest) = some rest := fun rest => rfl
  have hoffset : offset? (expect? ':') ['Z'] = some (0, []) := rfl
  rw [ofText?, text, String.toList_ofList, chars_of_year hyear, ofChars?]
  refine Option.bind_eq_some_iff.mpr ⟨_, hfour _, ?_⟩
  refine Option.bind_eq_some_iff.mpr ⟨_, hdash _, ?_⟩
  refine Option.bind_eq_some_iff.mpr ⟨_, htwo instant.date.month _ hmonth, ?_⟩
  refine Option.bind_eq_some_iff.mpr ⟨_, hdash _, ?_⟩
  refine Option.bind_eq_some_iff.mpr ⟨_, htwo instant.date.day _ hday, ?_⟩
  refine Option.bind_eq_some_iff.mpr ⟨_, hletter _, ?_⟩
  refine Option.bind_eq_some_iff.mpr ⟨_, htwo instant.hour _ (by omega), ?_⟩
  refine Option.bind_eq_some_iff.mpr ⟨_, hcolon _, ?_⟩
  refine Option.bind_eq_some_iff.mpr ⟨_, htwo instant.minute _ (by omega), ?_⟩
  refine Option.bind_eq_some_iff.mpr ⟨_, hcolon _, ?_⟩
  refine Option.bind_eq_some_iff.mpr ⟨_, htwo instant.second _ hsecond, ?_⟩
  refine Option.bind_eq_some_iff.mpr ⟨_, hfraction, ?_⟩
  refine Option.bind_eq_some_iff.mpr ⟨_, hoffset, ?_⟩
  refine (if_neg (by decide)).trans ?_
  refine Option.bind_eq_some_iff.mpr ⟨_, hreading, ?_⟩
  exact congrArg some (ofLocal_zero hhour hminute)

theorem padded_eq_cons (width value : Nat) :
    ∃ first rest, padded width value = first :: rest ∧ isDigit first = true := by
  have hne : padded width value ≠ [] := List.append_ne_nil_of_right_ne_nil _ Nat.toDigits_ne_nil
  obtain ⟨first, rest, hpadded⟩ := List.exists_cons_of_ne_nil hne
  exact ⟨first, rest, hpadded, isDigit_of_mem_padded (hpadded ▸ List.mem_cons_self)⟩

theorem trimStart_padded (width value : Nat) (rest : List Char) :
    trimStart (padded width value ++ rest) = padded width value ++ rest := by
  obtain ⟨first, others, hpadded, hfirst⟩ := padded_eq_cons width value
  refine trimStart_eq_self fun char hc => ?_
  rw [hpadded] at hc
  rw [← Option.some.inj hc]
  exact isBlank_of_isDigit hfirst

theorem signedYear?_padded {year : Nat} (h : year < 10 ^ 4) (rest : List Char) :
    signedYear? (padded 4 year ++ rest) = some ((year : Int), rest) := by
  obtain ⟨first, others, hpadded, hfirst⟩ := padded_eq_cons 4 year
  have hnumber := @number?_padded 1 4 year (by decide) (by decide) h rest
  rw [hpadded, List.cons_append] at hnumber ⊢
  unfold signedYear?
  split
  · rename_i heq
    rw [(List.cons.inj heq).1] at hfirst
    cases hfirst
  · rename_i heq
    rw [(List.cons.inj heq).1] at hfirst
    cases hfirst
  · rw [hnumber]
    rfl

-- The loose form reads it back too.
theorem ofLooseText?_text {instant : Instant} (hvalid : instant.isValid = true)
    (hyear : 0 ≤ instant.date.year ∧ instant.date.year ≤ 9999) :
    ofLooseText? instant.text = some instant := by
  obtain ⟨⟨hmonth, hday, hsecond⟩, hhour, hminute, hnanosecond⟩ := bounds_of_isValid hvalid
  have hreading := reading?_of_isValid hvalid hyear
  have htwo : ∀ value rest, value < 100 →
      looseNumber? (padded 2 value ++ rest) = some (value, rest) := by
    intro value rest h
    rw [looseNumber?, trimStart_padded]
    exact number?_padded (by decide) (by decide) h rest
  have hfour : ∀ rest, signedYear? (padded 4 instant.date.year.natAbs ++ rest) =
      some ((instant.date.year.natAbs : Int), rest) := signedYear?_padded (by omega)
  have hfraction := fraction?_text hnanosecond
  have hdash : ∀ rest, looseExpect? '-' ('-' :: rest) = some rest := fun rest => rfl
  have hcolon : ∀ rest, looseExpect? ':' (':' :: rest) = some rest := fun rest => rfl
  have hletter : ∀ rest, separator? ('T' :: rest) = some rest := fun rest => rfl
  have hoffset : looseOffset? (trimStart ['Z']) = some (0, []) := rfl
  rw [ofLooseText?, text, String.toList_ofList, chars_of_year hyear, trimStart_padded]
  refine Option.bind_eq_some_iff.mpr ⟨_, hfour _, ?_⟩
  refine Option.bind_eq_some_iff.mpr ⟨_, hdash _, ?_⟩
  refine Option.bind_eq_some_iff.mpr ⟨_, htwo instant.date.month _ hmonth, ?_⟩
  refine Option.bind_eq_some_iff.mpr ⟨_, hdash _, ?_⟩
  refine Option.bind_eq_some_iff.mpr ⟨_, htwo instant.date.day _ hday, ?_⟩
  refine Option.bind_eq_some_iff.mpr ⟨_, hletter _, ?_⟩
  refine Option.bind_eq_some_iff.mpr ⟨_, htwo instant.hour _ (by omega), ?_⟩
  refine Option.bind_eq_some_iff.mpr ⟨_, hcolon _, ?_⟩
  refine Option.bind_eq_some_iff.mpr ⟨_, htwo instant.minute _ (by omega), ?_⟩
  refine Option.bind_eq_some_iff.mpr ⟨_, hcolon _, ?_⟩
  refine Option.bind_eq_some_iff.mpr ⟨_, htwo instant.second _ hsecond, ?_⟩
  refine Option.bind_eq_some_iff.mpr ⟨_, hfraction, ?_⟩
  refine Option.bind_eq_some_iff.mpr ⟨_, hoffset, ?_⟩
  refine (if_neg (by decide)).trans ?_
  refine Option.bind_eq_some_iff.mpr ⟨_, hreading, ?_⟩
  exact congrArg some (ofLocal_zero hhour hminute)

end Instant

end Time

end NoteVault
