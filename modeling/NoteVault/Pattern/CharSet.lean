import NoteVault.Text.CaseFold

namespace NoteVault.Pattern

-- Ranges of code points in increasing order, both ends included.
abbrev Ranges := Array (Nat × Nat)

namespace Ranges

-- Halves the part of the ranges from low up to high that can hold the code.
-- The fuel is the number of halvings that are left.
def search (ranges : Ranges) (code : Nat) : Nat → Nat → Nat → Bool
  | 0, _, _ => false
  | fuel + 1, low, high =>
    if high ≤ low then false
    else
      let middle := (low + high) / 2
      match ranges[middle]? with
      | none => false
      | some (first, last) =>
        if code < first then search ranges code fuel low middle
        else if last < code then search ranges code fuel (middle + 1) high
        else true

def contains (ranges : Ranges) (code : Nat) : Bool :=
  search ranges code (ranges.size.log2 + 2) 0 ranges.size

end Ranges

-- Sets of code points as they are written: ranges and operations on sets.
-- A folded set holds every character that shares a letter with a member.
inductive CharSet where
  | ofRanges (ranges : Ranges)
  | union (left right : CharSet)
  | intersection (left right : CharSet)
  | difference (left right : CharSet)
  | symmetricDifference (left right : CharSet)
  | complement (set : CharSet)
  | folded (set : CharSet)
  | foldedAscii (set : CharSet)

namespace CharSet

def empty : CharSet := .ofRanges #[]

def single (code : Nat) : CharSet := .ofRanges #[(code, code)]

def range (first last : Nat) : CharSet := .ofRanges #[(first, last)]

-- The other case of an ASCII letter, and other codes as they are.
def otherAsciiCase (code : Nat) : Nat :=
  if 65 ≤ code && code ≤ 90 then code + 32
  else if 97 ≤ code && code ≤ 122 then code - 32
  else code

def contains : CharSet → Nat → Bool
  | .ofRanges ranges, code => ranges.contains code
  | .union left right, code => left.contains code || right.contains code
  | .intersection left right, code => left.contains code && right.contains code
  | .difference left right, code => left.contains code && !right.contains code
  | .symmetricDifference left right, code => left.contains code != right.contains code
  | .complement set, code => !set.contains code
  | .folded set, code => (Text.caseOrbit (Char.ofNat code)).any fun char => set.contains char.toNat
  | .foldedAscii set, code => set.contains code || set.contains (otherAsciiCase code)

-- How many ranges the set is written with.
def weight : CharSet → Nat
  | .ofRanges ranges => ranges.size
  | .union left right => left.weight + right.weight
  | .intersection left right => left.weight + right.weight
  | .difference left right => left.weight + right.weight
  | .symmetricDifference left right => left.weight + right.weight
  | .complement set => set.weight
  | .folded set => 2 * set.weight
  | .foldedAscii set => 2 * set.weight

-- Whether a set of bytes holds bytes of ASCII only.
def isAsciiOnly (set : CharSet) : Bool :=
  (List.range 128).all fun code => !set.contains (128 + code)

-- A set of bytes as a set of characters.
def asciiPart (set : CharSet) : CharSet :=
  .intersection set (range 0 127)

end CharSet

end NoteVault.Pattern
