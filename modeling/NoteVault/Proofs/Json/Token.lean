import Mathlib.Algebra.Group.Nat.Defs
import NoteVault.FrontMatter.Scalar
import NoteVault.Json.Reader
import NoteVault.Json.Writer
import NoteVault.Proofs.Time.RoundTrip

namespace NoteVault.Json

open Decimal Text

section

variable {gap rest : List Char}

-- Blanks alone.
def IsGaps (chars : List Char) : Prop :=
  ∀ char ∈ chars, isGap char = true

theorem skipGap_append (h : IsGaps gap) (rest : List Char) : skipGap (gap ++ rest) = skipGap rest := by
  rw [skipGap, List.dropWhile_append_of_pos h]
  rfl

theorem skipGap_cons {char : Char} (h : isGap char = false) (rest : List Char) :
    skipGap (char :: rest) = char :: rest :=
  List.dropWhile_cons_of_neg (by simp [h])

theorem isGaps_newLine (depth : Nat) : IsGaps (Value.newLine depth) := by
  intro char h
  rcases List.mem_cons.mp h with rfl | h
  · rfl
  · rw [List.eq_of_mem_replicate h]
    rfl

end

section

theorem hexValue?_hexDigit : ∀ value < 16, hexValue? (hexDigit value) = some value := by
  decide

-- Control characters come back from their four hexadecimal digits.
theorem codeUnit?_control {code : Nat} (h : code < 0x20) :
    codeUnit? '0' '0' (hexDigit (code / 16)) (hexDigit (code % 16)) = some code := by
  have hzero : hexValue? '0' = some 0 := by decide
  have hhigh := hexValue?_hexDigit (code / 16) (by omega)
  have hlow := hexValue?_hexDigit (code % 16) (by omega)
  simp only [codeUnit?, hzero, hhigh, hlow, Option.bind_eq_bind, Option.bind_some, pure]
  congr 1
  omega

theorem readString_control {char : Char} (h : char.toNat < 0x20) (rest : List Char) :
    readString ('\\' :: 'u' :: '0' :: '0' :: hexDigit (char.toNat / 16) ::
      hexDigit (char.toNat % 16) :: rest) = consChar char (readString rest) := by
  have htrailing : isTrailingSurrogate char.toNat = false := by
    simp only [isTrailingSurrogate, Bool.and_eq_false_iff, decide_eq_false_iff_not]
    omega
  have hleading : isLeadingSurrogate char.toNat = false := by
    simp only [isLeadingSurrogate, Bool.and_eq_false_iff, decide_eq_false_iff_not]
    omega
  rw [readString, codeUnit?_control h]
  simp only [htrailing, hleading, Bool.false_eq_true, if_false, Char.ofNat_toNat]

theorem readString_plain {char : Char} (hquote : char ≠ '"') (hslash : char ≠ '\\')
    (hcode : ¬char.toNat < 0x20) (rest : List Char) :
    readString (char :: rest) = consChar char (readString rest) := by
  rw [readString.eq_def]
  split
  · rename_i h
    cases h
  · rename_i h
    exact absurd (List.cons.inj h).1 hquote
  · rename_i h
    exact absurd (List.cons.inj h).1 hslash
  · rename_i h
    exact absurd (List.cons.inj h).1 hslash
  · rename_i h
    obtain ⟨rfl, rfl⟩ := List.cons.inj h
    rw [if_neg hcode, if_neg hslash]

-- Every character comes back from its written form.
theorem readString_escapeChar (char : Char) (rest : List Char) :
    readString (escapeChar char ++ rest) = consChar char (readString rest) := by
  unfold escapeChar
  split
  · subst_vars
    rfl
  split
  · subst_vars
    rfl
  split
  · subst_vars
    rfl
  split
  · subst_vars
    rfl
  split
  · subst_vars
    rfl
  split
  · subst_vars
    rfl
  split
  · subst_vars
    rfl
  split
  · rename_i hcode
    exact readString_control hcode rest
  · rename_i hquote hslash _ _ _ _ _ hcode
    exact readString_plain hquote hslash hcode rest

theorem readString_flatMap (chars rest : List Char) :
    readString (chars.flatMap escapeChar ++ '"' :: rest) = some (chars, rest) := by
  induction chars with
  | nil => rfl
  | cons char chars ih =>
      rw [List.flatMap_cons, List.append_assoc, readString_escapeChar, ih]
      rfl

theorem quoteChars_append (chars rest : List Char) :
    quoteChars chars ++ rest = '"' :: (chars.flatMap escapeChar ++ '"' :: rest) := by
  simp [quoteChars]

end

end NoteVault.Json
