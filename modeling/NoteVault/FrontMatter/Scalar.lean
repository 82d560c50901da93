import NoteVault.Json.Value
import NoteVault.Text.Basic
import NoteVault.Text.Line

namespace NoteVault.FrontMatter

open Decimal Json Text

def isQuote (char : Char) : Bool :=
  char == '"' || char == '\''

-- The text between the first and the last character, for a text of two or more.
def inner? : List Char → Option (Char × List Char × Char)
  | first :: next :: rest => some (first, (next :: rest).dropLast, (next :: rest).getLastD next)
  | _ => none

-- What stands between two equal quotes, character for character.
def unquoted? (chars : List Char) : Option (List Char) :=
  match inner? chars with
  | some (first, inner, last) => if first = last ∧ isQuote first then some inner else none
  | none => none

def bracketed? (chars : List Char) : Option (List Char) :=
  match inner? chars with
  | some (first, inner, last) => if first = '[' ∧ last = ']' then some inner else none
  | none => none

def keyword? (chars : List Char) : Option Value :=
  if chars = ['t', 'r', 'u', 'e'] then some (.bool true)
  else if chars = ['f', 'a', 'l', 's', 'e'] then some (.bool false)
  else if chars = ['n', 'u', 'l', 'l'] ∨ chars = ['~'] then some .null
  else none

-- Integers that a signed or an unsigned word of 64 bits holds.
def isWord (value : Int) : Bool :=
  -(Nat.pow 2 63 : Int) ≤ value && value < (Nat.pow 2 64 : Int)

-- Digits with an optional fraction. A whole number is an integer while it fits
-- in 64 bits and the nearest double beyond that.
def unsignedNumber? (negative : Bool) (chars : List Char) : Option Number :=
  let whole := chars.takeWhile isDigit
  let rest := chars.dropWhile isDigit
  if whole.isEmpty then none
  else
    match rest with
    | [] =>
      let value := digitsValue whole
      let signed : Int := if negative then -value else value
      if isWord signed then some (.integer signed)
      else (Binary64.ofRatio? negative value 1).map .double
    | '.' :: fraction =>
      if fraction.isEmpty || !fraction.all isDigit then none
      else
        (Binary64.ofRatio? negative (digitsValue (whole ++ fraction)) (Nat.pow 10 fraction.length)).map
          .double
    | _ => none

def number? : List Char → Option Number
  | '-' :: rest => unsignedNumber? true rest
  | chars => unsignedNumber? false chars

def consPart (char : Char) : List (List Char) → List (List Char)
  | [] => [[char]]
  | part :: parts => (char :: part) :: parts

-- Cuts at the commas outside quotes and nested brackets. A quote ends at the
-- next one of its kind. The depth falls below zero at brackets that close
-- nothing, and no comma counts there.
def splitTopLevel : Option Char → Int → List Char → List (List Char)
  | _, _, [] => [[]]
  | some quote, depth, char :: rest =>
    consPart char (splitTopLevel (if char = quote then none else some quote) depth rest)
  | none, depth, char :: rest =>
    if isQuote char then consPart char (splitTopLevel (some char) depth rest)
    else if char = '[' then consPart char (splitTopLevel none (depth + 1) rest)
    else if char = ']' then consPart char (splitTopLevel none (depth - 1) rest)
    else if char = ',' ∧ depth = 0 then [] :: splitTopLevel none depth rest
    else consPart char (splitTopLevel none depth rest)

theorem length_le_of_mem_consPart {char : Char} {parts : List (List Char)} {bound : Nat}
    (h : ∀ part ∈ parts, part.length ≤ bound) :
    ∀ part ∈ consPart char parts, part.length ≤ bound + 1 := by
  cases parts with
  | nil => simp [consPart]
  | cons first parts =>
    intro part hp
    simp only [consPart, List.mem_cons] at hp
    rcases hp with rfl | hp
    · have := h first (by simp); simp; omega
    · have := h part (by simp [hp]); omega

theorem length_le_of_mem_splitTopLevel (chars : List Char) :
    ∀ quote depth, ∀ part ∈ splitTopLevel quote depth chars, part.length ≤ chars.length := by
  induction chars with
  | nil => intro quote depth part hp; cases quote <;> simp_all [splitTopLevel]
  | cons char rest ih =>
    intro quote depth
    have grow := fun quote depth =>
      @length_le_of_mem_consPart char _ _ (ih quote depth)
    cases quote with
    | some quote => simpa [splitTopLevel] using grow _ _
    | none =>
      simp only [splitTopLevel]
      split
      · exact grow _ _
      · split
        · exact grow _ _
        · split
          · exact grow _ _
          · split
            · intro part hp
              rcases List.mem_cons.mp hp with rfl | hp
              · simp
              · have := ih none depth part hp; simp; omega
            · exact grow _ _

theorem length_of_bracketed? {chars inner : List Char} (h : bracketed? chars = some inner) :
    inner.length < chars.length := by
  unfold bracketed? inner? at h
  split at h
  · next first between last heq =>
    split at heq
    · simp only [Option.some.injEq, Prod.mk.injEq] at heq
      split at h
      · obtain ⟨-, rfl, -⟩ := heq
        simp only [Option.some.injEq] at h
        subst h
        simp only [List.length_dropLast, List.length_cons]
        omega
      · simp at h
    · simp at heq
  · simp at h

theorem length_trim_le (chars : List Char) : (trim chars).length ≤ chars.length := by
  have start : (trimStart chars).length ≤ chars.length :=
    (List.dropWhile_sublist isBlank).length_le
  have finish : ((trimStart chars).reverse.dropWhile isBlank).length ≤
      (trimStart chars).reverse.length := (List.dropWhile_sublist isBlank).length_le
  simp only [trim, trimEnd, List.length_reverse] at finish ⊢
  omega

-- The value that a written scalar stands for: a quoted text, a keyword, an
-- inline array, a number, or else the text itself.
def coerce (chars : List Char) : Value :=
  match unquoted? (trim chars) with
  | some inner => .string (String.ofList inner)
  | none =>
    match keyword? (trim chars) with
    | some value => value
    | none =>
      match _hb : bracketed? (trim chars) with
      | some inner =>
        if (trim inner).isEmpty then .array []
        else .array ((splitTopLevel none 0 inner).attach.map fun part => coerce part.1)
      | none =>
        match number? (trim chars) with
        | some number => .number number
        | none => .string (String.ofList (trim chars))
termination_by chars.length
decreasing_by
  have bound := length_le_of_mem_splitTopLevel inner none 0 part.1 part.2
  have shorter := length_of_bracketed? _hb
  have := length_trim_le chars
  omega

-- The rule of `coerce` as one equation.
theorem coerce_eq (chars : List Char) :
    coerce chars =
      match unquoted? (trim chars) with
      | some inner => .string (String.ofList inner)
      | none =>
        match keyword? (trim chars) with
        | some value => value
        | none =>
          match bracketed? (trim chars) with
          | some inner =>
            if (trim inner).isEmpty then .array []
            else .array ((splitTopLevel none 0 inner).map coerce)
          | none =>
            match number? (trim chars) with
            | some number => .number number
            | none => .string (String.ofList (trim chars)) := by
  rw [coerce]
  split
  · rfl
  · split
    · rfl
    · split
      · next inner hb => simp [hb]
      · next hb => simp [hb]

def coerceText (text : String) : Value :=
  coerce text.toList

end NoteVault.FrontMatter
