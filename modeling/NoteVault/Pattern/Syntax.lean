import NoteVault.Pattern.CharSet

namespace NoteVault.Pattern

-- Conditions on the place between two characters. Those on words come with the
-- word characters of Unicode or of ASCII.
inductive Look where
  | textStart
  | textEnd
  | lineStart
  | lineEnd
  | crlfLineStart
  | crlfLineEnd
  | wordEdge (unicode : Bool)
  | notWordEdge (unicode : Bool)
  | wordStart (unicode : Bool)
  | wordEnd (unicode : Bool)
  | wordStartHalf (unicode : Bool)
  | wordEndHalf (unicode : Bool)
deriving DecidableEq, Repr

-- What a pattern matches. Captures and preferences between matches are left
-- out, because a search only asks whether there is a match.
inductive Expr where
  | empty
  | set (set : CharSet)
  | look (look : Look)
  | sequence (left right : Expr)
  | either (left right : Expr)
  | repeated (body : Expr) (least : Nat) (most : Option Nat)

-- The modes that a pattern can switch. Blanks and comments are skipped where
-- layout is ignored.
structure Flags where
  caseInsensitive : Bool
  multiLine : Bool
  dotMatchesLineFeed : Bool
  unicode : Bool
  crlf : Bool
  ignoreLayout : Bool
deriving DecidableEq, Repr

namespace Flags

def default : Flags := ⟨false, false, false, true, false, false⟩

-- The flag of a letter. The preference for short matches changes nothing here.
def set? (letter : Char) (on : Bool) (flags : Flags) : Option Flags :=
  if letter = 'i' then some { flags with caseInsensitive := on }
  else if letter = 'm' then some { flags with multiLine := on }
  else if letter = 's' then some { flags with dotMatchesLineFeed := on }
  else if letter = 'u' then some { flags with unicode := on }
  else if letter = 'R' then some { flags with crlf := on }
  else if letter = 'x' then some { flags with ignoreLayout := on }
  else if letter = 'U' then some flags
  else none

def lineStart (flags : Flags) : Look :=
  if flags.multiLine then (if flags.crlf then .crlfLineStart else .lineStart) else .textStart

def lineEnd (flags : Flags) : Look :=
  if flags.multiLine then (if flags.crlf then .crlfLineEnd else .lineEnd) else .textEnd

-- A set that is written in brackets, or by a name that folds. Without Unicode
-- it must not hold bytes outside ASCII, which would be no characters.
def close? (flags : Flags) (negated : Bool) (set : CharSet) : Option CharSet :=
  let negate (set : CharSet) : CharSet := if negated then .complement set else set
  if flags.unicode then some (negate (if flags.caseInsensitive then .folded set else set))
  else
    let set := negate (if flags.caseInsensitive then .foldedAscii set else set)
    if set.isAsciiOnly then some set.asciiPart else none

-- An operand of an operation on sets.
def operand (flags : Flags) (set : CharSet) : CharSet :=
  if !flags.caseInsensitive then set
  else if flags.unicode then .folded set
  else .foldedAscii set

-- The point.
def anyChar? (flags : Flags) : Option CharSet :=
  if !flags.unicode then none
  else if flags.dotMatchesLineFeed then some (.complement .empty)
  else if flags.crlf then some (.complement (.ofRanges #[(10, 10), (13, 13)]))
  else some (.complement (.single 10))

-- A character that stands for itself.
def literal (flags : Flags) (code : Nat) : CharSet :=
  if flags.caseInsensitive then
    if flags.unicode then .folded (.single code)
    else if code < 128 then .foldedAscii (.single code)
    else .single code
  else .single code

end Flags

end NoteVault.Pattern
