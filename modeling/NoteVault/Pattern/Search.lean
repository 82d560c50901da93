import NoteVault.Pattern.Automaton
import NoteVault.Pattern.Parser

namespace NoteVault.Pattern

def isWordChar (unicode : Bool) : Option Char → Bool
  | none => false
  | some char =>
    if unicode then
      if char.toNat < 128 then asciiWordChars.contains char.toNat
      else wordChars.contains char.toNat
    else asciiWordChars.contains char.toNat

-- Whether a condition holds between two characters, where none stands for an
-- end of the text.
def Look.holds (before after : Option Char) : Look → Bool
  | .textStart => before.isNone
  | .textEnd => after.isNone
  | .lineStart => before.isNone || before == some '\n'
  | .lineEnd => after.isNone || after == some '\n'
  | .crlfLineStart =>
    before.isNone || before == some '\n' || (before == some '\r' && after != some '\n')
  | .crlfLineEnd =>
    after.isNone || after == some '\r' || (after == some '\n' && before != some '\r')
  | .wordEdge unicode => isWordChar unicode before != isWordChar unicode after
  | .notWordEdge unicode => isWordChar unicode before == isWordChar unicode after
  | .wordStart unicode => !isWordChar unicode before && isWordChar unicode after
  | .wordEnd unicode => isWordChar unicode before && !isWordChar unicode after
  | .wordStartHalf unicode => !isWordChar unicode before
  | .wordEndHalf unicode => !isWordChar unicode after

-- The states that are reached at one place without reading a character: the
-- marks of those seen, the steps among them, and whether one of them accepts.
structure Reach where
  seen : Array Bool
  steps : List (CharSet × Nat)
  accepts : Bool

-- Follows forks and conditions from the pending states. Each state is entered
-- once, so that twice as many turns as there are states, and one for each
-- pending state, are enough.
def follow (automaton : Automaton) (before after : Option Char) :
    Nat → List Nat → Reach → Reach
  | 0, _, reach => reach
  | _ + 1, [], reach => reach
  | fuel + 1, state :: pending, reach =>
    if reach.seen.getD state true then follow automaton before after fuel pending reach
    else
      let reach := { reach with seen := reach.seen.setIfInBounds state true }
      match automaton[state]? with
      | none => follow automaton before after fuel pending reach
      | some (.step set next) =>
        follow automaton before after fuel pending
          { reach with steps := (set, next) :: reach.steps }
      | some (.look look next) =>
        follow automaton before after fuel
          (if look.holds before after then next :: pending else pending) reach
      | some (.fork left right) =>
        follow automaton before after fuel (left :: right :: pending) reach
      | some .accept => { reach with accepts := true }

def reachFrom (automaton : Automaton) (before after : Option Char) (states : List Nat) : Reach :=
  follow automaton before after (2 * automaton.size + states.length + 1) states
    ⟨Array.replicate automaton.size false, [], false⟩

-- Runs all attempts at once. At every place the states of the attempts so far
-- are joined by those of an attempt that starts there.
def run (automaton : Automaton) (start : Nat) :
    Option Char → List Nat → List Char → Bool
  | before, states, [] =>
    (reachFrom automaton before none (start :: states)).accepts
  | before, states, char :: rest =>
    let reach := reachFrom automaton before (some char) (start :: states)
    if reach.accepts then true
    else
      run automaton start (some char)
        (reach.steps.filterMap fun (set, next) =>
          if set.contains char.toNat then some next else none)
        rest

-- The automaton of an expression, with its first state.
def automatonOf (expr : Expr) : Nat × Automaton :=
  expr.link 0 #[.accept]

end Pattern

-- A pattern that compiles.
structure Pattern where
  start : Nat
  automaton : Pattern.Automaton

namespace Pattern

-- A pattern compiles when it is well formed and its machine is not too large.
def compile? (text : String) : Option Pattern := do
  let expr ← parse? text
  if weightLimit < expr.weight then none
  let (start, automaton) := automatonOf expr
  return ⟨start, automaton⟩

-- Whether the pattern matches some part of the text.
def isMatch (pattern : Pattern) (text : String) : Bool :=
  run pattern.automaton pattern.start none [] text.toList

end Pattern

end NoteVault
