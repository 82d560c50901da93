import NoteVault.Json.Value
import NoteVault.Text.Basic

namespace NoteVault.Json

open Decimal

-- The blanks between the tokens of a document.
def isGap (char : Char) : Bool :=
  char == ' ' || char == '\n' || char == '\t' || char == '\r'

def skipGap (chars : List Char) : List Char :=
  chars.dropWhile isGap

def hexValue? (char : Char) : Option Nat :=
  if '0' ≤ char ∧ char ≤ '9' then some (char.toNat - 48)
  else if 'a' ≤ char ∧ char ≤ 'f' then some (char.toNat - 87)
  else if 'A' ≤ char ∧ char ≤ 'F' then some (char.toNat - 55)
  else none

-- A code unit from four hexadecimal digits.
def codeUnit? (a b c d : Char) : Option Nat := do
  let a ← hexValue? a
  let b ← hexValue? b
  let c ← hexValue? c
  let d ← hexValue? d
  return ((a * 16 + b) * 16 + c) * 16 + d

def isLeadingSurrogate (unit : Nat) : Bool :=
  0xD800 ≤ unit && unit ≤ 0xDBFF

def isTrailingSurrogate (unit : Nat) : Bool :=
  0xDC00 ≤ unit && unit ≤ 0xDFFF

-- The character after a backslash, for the escapes of one letter.
def shortEscape? (char : Char) : Option Char :=
  if char = '"' ∨ char = '\\' ∨ char = '/' then some char
  else if char = 'b' then some '\x08'
  else if char = 'f' then some '\x0c'
  else if char = 'n' then some '\n'
  else if char = 'r' then some '\r'
  else if char = 't' then some '\t'
  else none

def consChar (char : Char) (result : Option (List Char × List Char)) :
    Option (List Char × List Char) :=
  result.map fun (chars, rest) => (char :: chars, rest)

-- A string after its opening quote, and what follows its closing quote. A
-- leading surrogate needs its trailing one, control characters need an escape.
def readString : List Char → Option (List Char × List Char)
  | [] => none
  | '"' :: rest => some ([], rest)
  | '\\' :: 'u' :: a :: b :: c :: d :: rest =>
    match codeUnit? a b c d with
    | none => none
    | some unit =>
      if isTrailingSurrogate unit then none
      else if isLeadingSurrogate unit then
        match rest with
        | '\\' :: 'u' :: e :: f :: g :: h :: rest =>
          match codeUnit? e f g h with
          | none => none
          | some other =>
            if isTrailingSurrogate other then
              consChar (Char.ofNat (0x10000 + (unit - 0xD800) * 0x400 + (other - 0xDC00)))
                (readString rest)
            else none
        | _ => none
      else consChar (Char.ofNat unit) (readString rest)
  | '\\' :: char :: rest =>
    match shortEscape? char with
    | none => none
    | some char => consChar char (readString rest)
  | char :: rest =>
    if char.toNat < 0x20 then none
    else if char = '\\' then none
    else consChar char (readString rest)

-- A number as it is spelled. Digits are given by their values.
structure Numeral where
  negative : Bool
  whole : List Nat
  fraction : List Nat
  hasFraction : Bool
  exponent : Option (Bool × List Nat)
deriving DecidableEq, Repr

-- The values of the digits at the start of the text.
def readDigits (chars : List Char) : List Nat × List Char :=
  ((chars.takeWhile Text.isDigit).map Text.digitValue, chars.dropWhile Text.isDigit)

-- The part before the point has a leading zero only when it is zero.
def readWhole (chars : List Char) : Option (List Nat × List Char) :=
  match readDigits chars with
  | ([], _) => none
  | (0 :: _ :: _, _) => none
  | (digits, rest) => some (digits, rest)

def readFraction : List Char → Option (Option (List Nat) × List Char)
  | '.' :: rest =>
    match readDigits rest with
    | ([], _) => none
    | (digits, rest) => some (some digits, rest)
  | chars => some (none, chars)

def readExponentDigits (negative : Bool) (chars : List Char) :
    Option (Option (Bool × List Nat) × List Char) :=
  match readDigits chars with
  | ([], _) => none
  | (digits, rest) => some (some (negative, digits), rest)

def readExponent : List Char → Option (Option (Bool × List Nat) × List Char)
  | [] => some (none, [])
  | char :: rest =>
    if char = 'e' ∨ char = 'E' then
      match rest with
      | '+' :: rest => readExponentDigits false rest
      | '-' :: rest => readExponentDigits true rest
      | rest => readExponentDigits false rest
    else some (none, char :: rest)

def readUnsigned (negative : Bool) (chars : List Char) : Option (Numeral × List Char) := do
  let (whole, rest) ← readWhole chars
  let (fraction, rest) ← readFraction rest
  let (exponent, rest) ← readExponent rest
  return (⟨negative, whole, fraction.getD [], fraction.isSome, exponent⟩, rest)

def readNumeral : List Char → Option (Numeral × List Char)
  | '-' :: rest => readUnsigned true rest
  | chars => readUnsigned false chars

def greatestWord : Nat := Nat.pow 2 64 - 1

-- Takes digits into the significand as long as it fits in 64 bits. The digits
-- that were not taken are left.
def takeDigits (significand : Nat) : List Nat → Nat × List Nat
  | [] => (significand, [])
  | digit :: rest =>
    if significand * 10 + digit ≤ greatestWord then takeDigits (significand * 10 + digit) rest
    else (significand, digit :: rest)

def powerOfTen (exponent : Nat) : Binary64 :=
  (Binary64.ofRatio? false (Nat.pow 10 exponent) 1).getD (.zero false)

-- Scales by a power of ten in binary64 arithmetic: one product or quotient
-- while the power is a binary64 number, and quotients by the greatest power
-- before that. There is no result beyond the range.
def scale : Nat → Binary64 → Int → Option Binary64
  | 0, value, _ => some value
  | steps + 1, value, exponent =>
    if exponent.natAbs ≤ 308 then
      if 0 ≤ exponent then value.mul? (powerOfTen exponent.natAbs)
      else value.div? (powerOfTen exponent.natAbs)
    else if value.isZero then some value
    else if 0 ≤ exponent then none
    else
      match value.div? (powerOfTen 308) with
      | none => none
      | some value => scale steps value (exponent + 308)

def withSign (negative : Bool) (value : Binary64) : Binary64 :=
  if negative then value.neg else value

-- After four steps every number of 64 bits is zero.
def scaledDouble (negative : Bool) (significand : Nat) (exponent : Int) : Option Binary64 :=
  (scale 4 (.ofInt significand) exponent).map (withSign negative)

def exponentLimit : Nat := Nat.pow 2 31 - 1

-- An integer while no point, exponent or overflow asks for a double. Minus
-- zero is a double as well.
def Numeral.value? (numeral : Numeral) : Option Number :=
  let (whole, dropped) := takeDigits 0 numeral.whole
  if !numeral.hasFraction && numeral.exponent.isNone && dropped.isEmpty then
    if !numeral.negative then some (.integer whole)
    else if whole = 0 ∨ Nat.pow 2 63 < whole then
      some (.double (withSign true (.ofInt whole)))
    else some (.integer (-whole))
  else
    let (significand, unread) := takeDigits whole numeral.fraction
    let start : Int := (dropped.length : Int) - (numeral.fraction.length - unread.length : Nat)
    match numeral.exponent with
    | none => (scaledDouble numeral.negative significand start).map .double
    | some (negative, digits) =>
      let exponent := digits.foldl (fun total digit => total * 10 + digit) 0
      if exponentLimit < exponent then
        if significand != 0 && !negative then none
        else some (.double (withSign numeral.negative (.zero false)))
      else
        (scaledDouble numeral.negative significand
          (if negative then start - exponent else start + exponent)).map .double

def readNumber (chars : List Char) : Option (Number × List Char) := do
  let (numeral, rest) ← readNumeral chars
  let number ← numeral.value?
  return (number, rest)

-- Arrays and objects may stand inside one another in fewer than this many levels.
def depthLimit : Nat := 128

def readKey (chars : List Char) : Option (String × List Char) :=
  match skipGap chars with
  | '"' :: rest =>
    match readString rest with
    | none => none
    | some (key, rest) =>
      match skipGap rest with
      | ':' :: rest => some (String.ofList key, rest)
      | _ => none
  | _ => none

mutual

-- A value at the start of the text. The fields of an object come as they are
-- written, repeated keys included. The fuel bounds the calls and is never
-- short when it is greater than the length of the text.
def readValue : Nat → Nat → List Char → Option (Value × List Char)
  | 0, _, _ => none
  | fuel + 1, depth, chars =>
    match skipGap chars with
    | 'n' :: 'u' :: 'l' :: 'l' :: rest => some (.null, rest)
    | 't' :: 'r' :: 'u' :: 'e' :: rest => some (.bool true, rest)
    | 'f' :: 'a' :: 'l' :: 's' :: 'e' :: rest => some (.bool false, rest)
    | '"' :: rest => (readString rest).map fun (text, rest) => (.string (String.ofList text), rest)
    | '[' :: rest =>
      if depth ≤ 1 then none
      else
        match skipGap rest with
        | ']' :: rest => some (.array [], rest)
        | rest => (readItems fuel (depth - 1) rest).map fun (items, rest) => (.array items, rest)
    | '\x7b' :: rest =>
      if depth ≤ 1 then none
      else
        match skipGap rest with
        | '\x7d' :: rest => some (.object [], rest)
        | rest => (readFields fuel (depth - 1) rest).map fun (fields, rest) => (.object fields, rest)
    | chars => (readNumber chars).map fun (number, rest) => (.number number, rest)

-- One or more items and the closing bracket.
def readItems : Nat → Nat → List Char → Option (List Value × List Char)
  | 0, _, _ => none
  | fuel + 1, depth, chars =>
    match readValue fuel depth chars with
    | none => none
    | some (item, rest) =>
      match skipGap rest with
      | ']' :: rest => some ([item], rest)
      | ',' :: rest => (readItems fuel depth rest).map fun (items, rest) => (item :: items, rest)
      | _ => none

-- One or more fields and the closing brace.
def readFields : Nat → Nat → List Char → Option (List (String × Value) × List Char)
  | 0, _, _ => none
  | fuel + 1, depth, chars =>
    match readKey chars with
    | none => none
    | some (key, rest) =>
      match readValue fuel depth rest with
      | none => none
      | some (value, rest) =>
        match skipGap rest with
        | '\x7d' :: rest => some ([(key, value)], rest)
        | ',' :: rest =>
          (readFields fuel depth rest).map fun (fields, rest) => ((key, value) :: fields, rest)
        | _ => none

end

-- The whole text as one document, with the fields as they are written.
def readWritten (text : String) : Option Value :=
  let chars := text.toList
  match readValue (chars.length + 1) depthLimit chars with
  | some (value, rest) => if (skipGap rest).isEmpty then some value else none
  | none => none

-- The whole text as one document. Of a repeated key the last value counts.
def read (text : String) : Option Value :=
  (readWritten text).map Value.canonical

example : read " [1, -2, \"a\\u00e9\"] " =
    some (.array [.ofNat 1, .number (.integer (-2)), .string "aé"]) := by decide +kernel
example : read "[1,]" = none := by decide +kernel
example : read "01" = none := by decide +kernel

end NoteVault.Json
