import NoteVault.Decimal.Shortest
import NoteVault.Json.Value

namespace NoteVault.Json

open Decimal

-- A lower-case hexadecimal digit.
def hexDigit (value : Nat) : Char :=
  Nat.digitChar value

-- The written form of one character of a string. Control characters without a
-- short form take four hexadecimal digits.
def escapeChar (char : Char) : List Char :=
  if char = '"' then ['\\', '"']
  else if char = '\\' then ['\\', '\\']
  else if char = '\x08' then ['\\', 'b']
  else if char = '\t' then ['\\', 't']
  else if char = '\n' then ['\\', 'n']
  else if char = '\x0c' then ['\\', 'f']
  else if char = '\r' then ['\\', 'r']
  else if char.toNat < 0x20 then
    ['\\', 'u', '0', '0', hexDigit (char.toNat / 16), hexDigit (char.toNat % 16)]
  else [char]

def quoteChars (chars : List Char) : List Char :=
  '"' :: chars.flatMap escapeChar ++ ['"']

-- A text as a string literal.
def quote (text : String) : String :=
  String.ofList (quoteChars text.toList)

-- Doubles are written positionally, always with a point, while the first digit
-- stands between the sixteenth place before the point and the fifth after it.
def leastPositional : Int := -5

def greatestPositional : Int := 15

def exponentChars (exponent : Int) : List Char :=
  'e' :: (if exponent < 0 then '-' else '+') :: Nat.toDigits 10 exponent.natAbs

-- Digits with the point after the given number of places.
def positional (digits : List Char) (place : Int) : List Char :=
  if place ≤ 0 then '0' :: '.' :: List.replicate (-place).toNat '0' ++ digits
  else
    let whole := place.toNat
    if digits.length ≤ whole then
      digits ++ List.replicate (whole - digits.length) '0' ++ ['.', '0']
    else digits.take whole ++ '.' :: digits.drop whole

-- One digit before the point, and no point after a single digit.
def scientific (digits : List Char) (exponent : Int) : List Char :=
  match digits with
  | [] => []
  | [digit] => digit :: exponentChars exponent
  | digit :: rest => digit :: '.' :: rest ++ exponentChars exponent

def magnitudeChars (value : Binary64) : List Char :=
  if value.isZero then ['0', '.', '0']
  else
    let ⟨digits, exponent⟩ := value.shortest
    let place := exponent + digits.length
    if leastPositional ≤ place - 1 && place - 1 ≤ greatestPositional then positional digits place
    else scientific digits (place - 1)

def doubleChars (value : Binary64) : List Char :=
  if value.negative then '-' :: magnitudeChars value else magnitudeChars value

def integerChars (value : Int) : List Char :=
  if value < 0 then '-' :: Nat.toDigits 10 value.natAbs else Nat.toDigits 10 value.natAbs

def Number.chars : Number → List Char
  | .integer value => integerChars value
  | .double value => doubleChars value

namespace Value

mutual

-- The document on one line without blanks.
def compactChars : Value → List Char
  | .null => "null".toList
  | .bool true => "true".toList
  | .bool false => "false".toList
  | .number value => value.chars
  | .string text => quoteChars text.toList
  | .array items => '[' :: compactItems items ++ [']']
  | .object fields => '\x7b' :: compactFields fields ++ ['\x7d']

def compactItems : List Value → List Char
  | [] => []
  | [item] => compactChars item
  | item :: next :: items => compactChars item ++ ',' :: compactItems (next :: items)

def compactFields : List (String × Value) → List Char
  | [] => []
  | [(key, value)] => quoteChars key.toList ++ ':' :: compactChars value
  | (key, value) :: next :: fields =>
    quoteChars key.toList ++ ':' :: compactChars value ++ ',' :: compactFields (next :: fields)

end

def compact (value : Value) : String :=
  String.ofList value.compactChars

def newLine (depth : Nat) : List Char :=
  '\n' :: List.replicate (2 * depth) ' '

mutual

-- The document with one item or field on a line and two blanks for each
-- level. Fields stand in the order given.
def prettyChars (depth : Nat) : Value → List Char
  | .array [] => ['[', ']']
  | .array (item :: items) => '[' :: prettyItems depth (item :: items) ++ newLine depth ++ [']']
  | .object [] => ['\x7b', '\x7d']
  | .object (field :: fields) =>
    '\x7b' :: prettyFields depth (field :: fields) ++ newLine depth ++ ['\x7d']
  | .null => compactChars .null
  | .bool value => compactChars (.bool value)
  | .number value => compactChars (.number value)
  | .string text => compactChars (.string text)

def prettyItems (depth : Nat) : List Value → List Char
  | [] => []
  | [item] => newLine (depth + 1) ++ prettyChars (depth + 1) item
  | item :: next :: items =>
    newLine (depth + 1) ++ prettyChars (depth + 1) item ++ ',' :: prettyItems depth (next :: items)

def prettyFields (depth : Nat) : List (String × Value) → List Char
  | [] => []
  | [(key, value)] =>
    newLine (depth + 1) ++ quoteChars key.toList ++ ':' :: ' ' :: prettyChars (depth + 1) value
  | (key, value) :: next :: fields =>
    newLine (depth + 1) ++ quoteChars key.toList ++ ':' :: ' ' :: prettyChars (depth + 1) value ++
      ',' :: prettyFields depth (next :: fields)

end

def pretty (value : Value) : String :=
  String.ofList (value.prettyChars 0)

end Value

example : doubleChars (.ofInt 1) = "1.0".toList := by decide +kernel
example : (Value.array [.null, .ofNat 3, .string "a\"b"]).compact = "[null,3,\"a\\\"b\"]" := by
  decide +kernel

end NoteVault.Json
