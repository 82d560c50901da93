import NoteVault.Decimal.Binary64
import NoteVault.Keyed

namespace NoteVault.Json

open Decimal

-- A number is an integer of at most 64 bits or a double, and the two are
-- different numbers even where their values agree.
inductive Number where
  | integer (value : Int)
  | double (value : Binary64)
deriving DecidableEq, Repr

-- A document. The fields of an object are sorted by key.
inductive Value where
  | null
  | bool (value : Bool)
  | number (value : Number)
  | string (value : String)
  | array (items : List Value)
  | object (fields : List (String × Value))
deriving Repr

namespace Number

-- The value as a double, rounded where it has more than 53 bits.
def toBinary64 : Number → Binary64
  | .integer value => .ofInt value
  | .double value => value

-- Equality of numbers of one sort. The two zeros of the doubles are equal.
def same : Number → Number → Bool
  | .integer left, .integer right => left == right
  | .double left, .double right => left.sameValue right
  | _, _ => false

end Number

namespace Value

instance : Inhabited Value := ⟨.null⟩

def ofNat (value : Nat) : Value :=
  .number (.integer value)

-- The name of a value's type in messages.
def typeName : Value → String
  | .null => "null"
  | .bool _ => "boolean"
  | .number _ => "number"
  | .string _ => "string"
  | .array _ => "array"
  | .object _ => "object"

-- The field of an object; other values have no fields.
def field? (key : String) : Value → Option Value
  | .object fields => Keyed.get? key fields
  | _ => none

def string? : Value → Option String
  | .string text => some text
  | _ => none

-- An object from fields in any order; of a repeated key the last field counts.
def ofFields (fields : List (String × Value)) : Value :=
  .object (Keyed.ofList fields)

mutual

-- Equality of documents, with equal zeros.
def same : Value → Value → Bool
  | .null, .null => true
  | .bool left, .bool right => left == right
  | .number left, .number right => left.same right
  | .string left, .string right => left == right
  | .array left, .array right => sameItems left right
  | .object left, .object right => sameFields left right
  | _, _ => false

def sameItems : List Value → List Value → Bool
  | [], [] => true
  | left :: lefts, right :: rights => same left right && sameItems lefts rights
  | _, _ => false

def sameFields : List (String × Value) → List (String × Value) → Bool
  | [], [] => true
  | (key, left) :: lefts, (other, right) :: rights =>
    key == other && same left right && sameFields lefts rights
  | _, _ => false

end

mutual

private def decideEq : (left right : Value) → Decidable (left = right)
  | .null, .null => isTrue rfl
  | .bool left, .bool right => decidable_of_iff (left = right) (by simp)
  | .number left, .number right => decidable_of_iff (left = right) (by simp)
  | .string left, .string right => decidable_of_iff (left = right) (by simp)
  | .array left, .array right =>
    have := decideItems left right
    decidable_of_iff (left = right) (by simp)
  | .object left, .object right =>
    have := decideFields left right
    decidable_of_iff (left = right) (by simp)
  | .null, .bool _ | .null, .number _ | .null, .string _ | .null, .array _
  | .null, .object _ => isFalse nofun
  | .bool _, .null | .bool _, .number _ | .bool _, .string _ | .bool _, .array _
  | .bool _, .object _ => isFalse nofun
  | .number _, .null | .number _, .bool _ | .number _, .string _ | .number _, .array _
  | .number _, .object _ => isFalse nofun
  | .string _, .null | .string _, .bool _ | .string _, .number _ | .string _, .array _
  | .string _, .object _ => isFalse nofun
  | .array _, .null | .array _, .bool _ | .array _, .number _ | .array _, .string _
  | .array _, .object _ => isFalse nofun
  | .object _, .null | .object _, .bool _ | .object _, .number _ | .object _, .string _
  | .object _, .array _ => isFalse nofun

private def decideItems : (left right : List Value) → Decidable (left = right)
  | [], [] => isTrue rfl
  | [], _ :: _ => isFalse nofun
  | _ :: _, [] => isFalse nofun
  | left :: lefts, right :: rights =>
    have := decideEq left right
    have := decideItems lefts rights
    decidable_of_iff (left = right ∧ lefts = rights) (by simp)

private def decideFields : (left right : List (String × Value)) → Decidable (left = right)
  | [], [] => isTrue rfl
  | [], _ :: _ => isFalse nofun
  | _ :: _, [] => isFalse nofun
  | (key, left) :: lefts, (other, right) :: rights =>
    have := decideEq left right
    have := decideFields lefts rights
    decidable_of_iff (key = other ∧ left = right ∧ lefts = rights) (by simp [and_assoc])

end

instance : DecidableEq Value := decideEq

mutual

-- Sorts the fields of every object in the document and keeps the last value
-- of a repeated key.
def canonical : Value → Value
  | .array items => .array (canonicalItems items)
  | .object fields => .object (Keyed.ofList (canonicalFields fields))
  | .null => .null
  | .bool value => .bool value
  | .number value => .number value
  | .string value => .string value

def canonicalItems : List Value → List Value
  | [] => []
  | item :: items => canonical item :: canonicalItems items

def canonicalFields : List (String × Value) → List (String × Value)
  | [] => []
  | (key, value) :: fields => (key, canonical value) :: canonicalFields fields

end

end Value

end NoteVault.Json
