import NoteVault.Pattern.Syntax

namespace NoteVault.Pattern

-- A state of the automaton. Only steps read a character; forks and conditions
-- go on at the same place.
inductive State where
  | step (set : CharSet) (next : Nat)
  | look (look : Look) (next : Nat)
  | fork (left right : Nat)
  | accept

abbrev Automaton := Array State

-- The size of an automaton is measured in bytes of a byte-wise machine: so much
-- for a state and so much for each range of a set.
def stateWeight : Nat := 32

def asciiRangeWeight : Nat := 8

def wideRangeWeight : Nat := 26

-- Patterns whose machine would be larger than this are refused.
def weightLimit : Nat := 10 * Nat.pow 2 20

def setWeight : CharSet → Nat
  | .ofRanges ranges =>
    if ranges.all fun range => range.2 < 128 then
      stateWeight + (if ranges.size < 2 then 0 else asciiRangeWeight * ranges.size)
    else if ranges.size = 1 && ranges.all (fun range => range.1 == range.2) then 3 * stateWeight
    else stateWeight + wideRangeWeight * ranges.size
  | set => stateWeight + wideRangeWeight * set.weight

-- The weight grows with the counts of repetitions, which are written out.
def Expr.weight : Expr → Nat
  | .empty => stateWeight
  | .set chars => setWeight chars
  | .look _ => stateWeight
  | .sequence left right => left.weight + right.weight
  | .either left right => left.weight + right.weight + stateWeight
  | .repeated body least none => max least 1 * body.weight + stateWeight
  | .repeated body least (some most) =>
    least * body.weight + (most - least) * (body.weight + stateWeight) + stateWeight

-- A part of an automaton that leads to a given state: the state where it starts,
-- and the automaton with its states.
abbrev Linking := Nat → Automaton → Nat × Automaton

def push (state : State) (states : Automaton) : Nat × Automaton :=
  (states.size, states.push state)

def linkTimes (link : Linking) : Nat → Linking
  | 0, next, states => (next, states)
  | count + 1, next, states =>
    let (entry, states) := linkTimes link count next states
    link entry states

-- Up to so many times. Each time may be the last.
def linkOptional (link : Linking) : Nat → Linking
  | 0, next, states => (next, states)
  | count + 1, next, states =>
    let (entry, states) := linkOptional link count next states
    let (entry, states) := link entry states
    push (.fork entry next) states

-- Any number of times. The fork is set aside first, for the way back to it.
def linkLoop (link : Linking) (next : Nat) (states : Automaton) : Nat × Automaton :=
  let loop := states.size
  let (entry, states) := link loop (states.push .accept)
  (loop, states.setIfInBounds loop (.fork entry next))

-- States for an expression, in front of the states that come after it.
def Expr.link : Expr → Linking
  | .empty, next, states => (next, states)
  | .set chars, next, states => push (.step chars next) states
  | .look condition, next, states => push (.look condition next) states
  | .sequence left right, next, states =>
    let (entry, states) := right.link next states
    left.link entry states
  | .either left right, next, states =>
    let (leftEntry, states) := left.link next states
    let (rightEntry, states) := right.link next states
    push (.fork leftEntry rightEntry) states
  | .repeated body least none, next, states =>
    let (entry, states) := linkLoop body.link next states
    linkTimes body.link least entry states
  | .repeated body least (some most), next, states =>
    let (entry, states) := linkOptional body.link (most - least) next states
    linkTimes body.link least entry states

end NoteVault.Pattern
