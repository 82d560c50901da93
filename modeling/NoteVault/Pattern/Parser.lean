import NoteVault.Pattern.Property
import NoteVault.Pattern.Syntax
import NoteVault.Text.Basic

namespace NoteVault.Pattern

open Text

-- Where reading a pattern stands: what is left, the modes that are on, and
-- the names that groups have taken.
structure Cursor where
  rest : List Char
  flags : Flags
  names : List (List Char)

-- Reading fails without a reason: a pattern compiles or it does not.
abbrev Scan := StateT Cursor Option

-- Blanks and comments. A comment runs from # to the end of its line.
def skipLayout : Bool → List Char → List Char
  | _, [] => []
  | true, char :: rest => skipLayout (char != '\n') rest
  | false, char :: rest =>
    if isBlank char then skipLayout false rest
    else if char = '#' then skipLayout true rest
    else char :: rest

def layout (flags : Flags) (chars : List Char) : List Char :=
  if flags.ignoreLayout then skipLayout false chars else chars

def setRest (rest : List Char) : Scan Unit :=
  modify fun cursor => { cursor with rest := rest }

def peek? : Scan (Option Char) := do
  return (← get).rest.head?

def peek : Scan Char := do
  match ← peek? with
  | none => failure
  | some char => return char

-- Passes over one character.
def bump : Scan Unit :=
  modify fun cursor => { cursor with rest := cursor.rest.drop 1 }

def skip : Scan Unit :=
  modify fun cursor => { cursor with rest := layout cursor.flags cursor.rest }

-- Passes over one character and the layout after it.
def advance : Scan Unit := do
  bump
  skip

-- Passes over a text if it comes next.
def accept (text : List Char) : Scan Bool := do
  let cursor ← get
  if text.isPrefixOf cursor.rest then
    setRest (cursor.rest.drop text.length)
    return true
  else return false

-- Characters of one kind, with the layout after each of them.
def takeChars (flags : Flags) (accepts : Char → Bool) : Nat → List Char → List Char × List Char
  | 0, chars => ([], chars)
  | _ + 1, [] => ([], [])
  | fuel + 1, char :: rest =>
    if accepts char then
      let (taken, rest) := takeChars flags accepts fuel (layout flags rest)
      (char :: taken, rest)
    else ([], char :: rest)

def scanChars (accepts : Char → Bool) : Scan (List Char) := do
  let cursor ← get
  let (taken, rest) := takeChars cursor.flags accepts cursor.rest.length cursor.rest
  setRest rest
  return taken

def greatestCount : Nat := Nat.pow 2 32 - 1

-- A number with blanks around it, or none.
def scanDecimal : Scan (Option Nat) := do
  modify fun cursor => { cursor with rest := trimStart cursor.rest }
  let digits ← scanChars isDigit
  let _ ← scanChars isBlank
  if digits.isEmpty then return none
  let value := digitsValue digits
  if greatestCount < value then failure
  return some value

def isHexDigit (char : Char) : Bool :=
  char.isDigit || ('a' ≤ char && char ≤ 'f') || ('A' ≤ char && char ≤ 'F')

-- A code point that is a character.
def codeOfHex? (digits : List Char) : Option Nat :=
  let code := hexNumber digits
  if digits.isEmpty || 0x10FFFF < code || (0xD800 ≤ code && code ≤ 0xDFFF) then none
  else some code

def scanHexDigits : Nat → Scan (List Char)
  | 0 => return []
  | count + 1 => do
    let char ← peek
    if !isHexDigit char then failure
    advance
    return char :: (← scanHexDigits count)

-- Hexadecimal digits after the letter: so many, or any number in braces. Two
-- digits without braces can name a byte.
def scanHex (count : Nat) : Scan (Nat × Bool) := do
  advance
  if (← peek) = '\x7b' then
    advance
    let digits ← scanChars isHexDigit
    if (← peek) != '\x7d' then failure
    advance
    return (← codeOfHex? digits, false)
  else return (← codeOfHex? (← scanHexDigits count), count == 2)

def negateIf (negated : Bool) (set : CharSet) : CharSet :=
  if negated then .complement set else set

-- The set of a property between braces: a name, or a property with a value.
def setOfQuery? (query : List Char) : Option (Bool × CharSet) :=
  let unequal := splitAtFirst '!' query
  match unequal with
  | some (property, '=' :: value) => (valuedSet? property value).map (true, ·)
  | _ =>
    match (splitAtFirst ':' query).or (splitAtFirst '=' query) with
    | some (property, value) => (valuedSet? property value).map (false, ·)
    | none => (namedSet? query).map (false, ·)

-- A property after its letter.
def scanProperty (negated : Bool) : Scan CharSet := do
  let flags := (← get).flags
  advance
  let (unequal, set) ←
    if (← peek) = '\x7b' then do
      advance
      let query ← scanChars (· != '\x7d')
      let _ ← peek
      bump
      (setOfQuery? query : Option (Bool × CharSet))
    else do
      let char ← peek
      if char = '\\' then failure
      advance
      ((namedSet? [char]).map (false, ·) : Option (Bool × CharSet))
  if !flags.unicode then failure
  flags.close? (negated != unequal) set

-- Digits, blanks and word characters by their letters.
def shorthand? (flags : Flags) (letter : Char) : Option CharSet :=
  let pick (unicode ascii : CharSet) : Option CharSet :=
    if flags.unicode then some (negateIf letter.isUpper unicode)
    else if letter.isUpper then none
    else some ascii
  if letter.toLower = 'd' then pick decimalDigits asciiDigits
  else if letter.toLower = 's' then pick blanks asciiBlanks
  else pick wordChars asciiWordChars

-- What one character or one escape stands for.
inductive Primitive where
  | literal (code : Nat) (isByte : Bool)
  | set (set : CharSet)
  | look (look : Look)

-- The characters that have a meaning of their own somewhere in a pattern.
def isMeta (char : Char) : Bool :=
  ['\\', '.', '+', '*', '?', '(', ')', '|', '[', ']', '\x7b', '\x7d', '^', '$', '#', '&', '-',
    '~'].contains char

-- The characters that stand for themselves after a backslash.
def isEscapable (char : Char) : Bool :=
  isMeta char || (char.toNat < 128 && !char.isAlphanum && char != '<' && char != '>')

def controlEscape? (char : Char) : Option Nat :=
  if char = 'a' then some 7
  else if char = 'f' then some 12
  else if char = 't' then some 9
  else if char = 'n' then some 10
  else if char = 'r' then some 13
  else if char = 'v' then some 11
  else none

def isEdgeNameChar (char : Char) : Bool :=
  char.isAlpha || char == '-'

-- The name in braces that may follow a word edge. Braces that start with
-- anything but a letter or hyphen are left for a repetition.
def scanEdge (unicode : Bool) : Scan Look := do
  if (← peek?) != some '\x7b' then return .wordEdge unicode
  let before ← get
  advance
  if !isEdgeNameChar (← peek) then
    set before
    return .wordEdge unicode
  let name ← scanChars isEdgeNameChar
  if (← peek?) != some '\x7d' then failure
  bump
  if name = "start".toList then return .wordStart unicode
  else if name = "end".toList then return .wordEnd unicode
  else if name = "start-half".toList then return .wordStartHalf unicode
  else if name = "end-half".toList then return .wordEndHalf unicode
  else failure

def scanEscape : Scan Primitive := do
  bump
  let flags := (← get).flags
  let char ← peek
  if char.isDigit then failure
  else if char = 'x' ∨ char = 'u' ∨ char = 'U' then
    let (code, isByte) ← scanHex (if char = 'x' then 2 else if char = 'u' then 4 else 8)
    return .literal code isByte
  else if char = 'p' ∨ char = 'P' then return .set (← scanProperty (char == 'P'))
  else if ['d', 's', 'w', 'D', 'S', 'W'].contains char then
    bump
    return .set (← shorthand? flags char)
  bump
  if isEscapable char then return .literal char.toNat false
  else if let some code := controlEscape? char then return .literal code false
  else if char = 'A' then return .look .textStart
  else if char = 'z' then return .look .textEnd
  else if char = 'b' then return .look (← scanEdge flags.unicode)
  else if char = 'B' then return .look (.notWordEdge flags.unicode)
  else if char = '<' then return .look (.wordStart flags.unicode)
  else if char = '>' then return .look (.wordEnd flags.unicode)
  else failure

def setOfLiteral? (flags : Flags) (code : Nat) (isByte : Bool) : Option CharSet :=
  if flags.unicode || isByte || code < 128 then some (.single code) else none

-- A set in brackets as far as it is read: the union so far, how many items it
-- has and how deep they go, and an operation that waits for its right operand.
structure Gathering where
  set : CharSet
  count : Nat
  depth : Nat
  waiting : Option ((CharSet → CharSet → CharSet) × CharSet × Nat)

namespace Gathering

def start : Gathering := ⟨.empty, 0, 0, none⟩

def add (gathering : Gathering) (set : CharSet) (depth : Nat) : Gathering :=
  { gathering with
    set := if gathering.count = 0 then set else .union gathering.set set
    count := gathering.count + 1
    depth := max gathering.depth depth }

-- The set that is read, with its depth. Operations group from the left.
def result (flags : Flags) (gathering : Gathering) : CharSet × Nat :=
  let depth := if gathering.count < 2 then gathering.depth else gathering.depth + 1
  match gathering.waiting with
  | none => (gathering.set, depth)
  | some (operation, left, leftDepth) =>
    (operation (flags.operand left) (flags.operand gathering.set), max leftDepth depth + 1)

def operate (flags : Flags) (operation : CharSet → CharSet → CharSet)
    (gathering : Gathering) : Gathering :=
  let (set, depth) := gathering.result flags
  { start with waiting := some (operation, set, depth) }

end Gathering

-- A class between colons, after its opening bracket. There may be none.
def scanAsciiClass : Scan (Option CharSet) := do
  let before ← get
  let giveUp : Scan (Option CharSet) := do
    set before
    return none
  if !(← accept ['[', ':']) then return ← giveUp
  let negated ← accept ['^']
  let rest := (← get).rest
  let name := rest.takeWhile (· != ':')
  setRest (rest.drop name.length)
  if !(← accept [':', ']']) then return ← giveUp
  match asciiClass? name with
  | none => giveUp
  | some set => return some (← before.flags.close? negated set)

def scanItem : Scan Primitive := do
  let char ← peek
  if char = '\\' then scanEscape
  else
    bump
    return .literal char.toNat false

-- A character or escape in brackets, or a range.
def scanRange : Scan CharSet := do
  let flags := (← get).flags
  let first ← scanItem
  skip
  let char ← peek
  let ahead := layout flags ((← get).rest.drop 1)
  if char != '-' || ahead.head? == some ']' || ahead.head? == some '-' then
    match first with
    | .literal code isByte => setOfLiteral? flags code isByte
    | .set set => return set
    | .look _ => failure
  else
    advance
    let _ ← peek
    match first, ← scanItem with
    | .literal low lowByte, .literal high highByte =>
      if high < low then failure
      let _ ← setOfLiteral? flags low lowByte
      let _ ← setOfLiteral? flags high highByte
      return .range low high
    | _, _ => failure

def scanHyphens : Nat → Gathering → Scan Gathering
  | 0, gathering => return gathering
  | fuel + 1, gathering => do
    if (← peek) = '-' then
      advance
      scanHyphens fuel (gathering.add (.single 45) 0)
    else return gathering

-- The start of a set in brackets: a circumflex, hyphens, and a closing bracket
-- that stands for itself.
def scanOpening : Scan (Bool × Gathering) := do
  advance
  let negated := (← peek) == '^'
  if negated then advance
  let gathering ← scanHyphens ((← get).rest.length + 1) .start
  if gathering.count = 0 ∧ (← peek) = ']' then
    advance
    let _ ← peek
    return (negated, gathering.add (.single 93) 0)
  let _ ← peek
  return (negated, gathering)

-- The rest of a set in brackets, with its depth.
def scanSet : Nat → Bool → Gathering → Scan (CharSet × Nat)
  | 0, _, _ => failure
  | fuel + 1, negated, gathering => do
    skip
    let flags := (← get).flags
    let char ← peek
    let next := (← get).rest[1]?
    if char = '[' then
      match ← scanAsciiClass with
      | some set => scanSet fuel negated (gathering.add set 0)
      | none =>
        let (innerNegated, opening) ← scanOpening
        let (set, depth) ← scanSet fuel innerNegated opening
        scanSet fuel negated (gathering.add set depth)
    else if char = ']' then
      bump
      let (set, depth) := gathering.result flags
      return (← flags.close? negated set, depth + 1)
    else if char = '&' ∧ next = some '&' then
      bump
      bump
      scanSet fuel negated (gathering.operate flags .intersection)
    else if char = '-' ∧ next = some '-' then
      bump
      bump
      scanSet fuel negated (gathering.operate flags .difference)
    else if char = '~' ∧ next = some '~' then
      bump
      bump
      scanSet fuel negated (gathering.operate flags .symmetricDifference)
    else
      let set ← scanRange
      scanSet fuel negated (gathering.add set 0)

-- An expression with the depth of its nesting.
structure Piece where
  expr : Expr
  depth : Nat

-- The parts of a sequence. A part without a piece switches modes.
abbrev Part := Option Piece

def exprOf (part : Part) : Expr :=
  match part with
  | none => .empty
  | some piece => piece.expr

def depthOf (part : Part) : Nat :=
  match part with
  | none => 0
  | some piece => piece.depth

def sequenceOf : List Part → Piece
  | [] => ⟨.empty, 0⟩
  | [part] => ⟨exprOf part, depthOf part⟩
  | part :: next :: parts =>
    ⟨(next :: parts).foldl (fun expr part => .sequence expr (exprOf part)) (exprOf part),
      ((part :: next :: parts).map depthOf).foldl max 0 + 1⟩

def choiceOf : List Piece → Piece
  | [] => ⟨.empty, 0⟩
  | [piece] => piece
  | piece :: next :: pieces =>
    ⟨(next :: pieces).foldl (fun expr piece => .either expr piece.expr) piece.expr,
      ((piece :: next :: pieces).map (·.depth)).foldl max 0 + 1⟩

-- The flags of a group up to its colon or closing parenthesis. No flag may
-- come twice, and a hyphen needs a flag after it.
def readFlags (flags : Flags) (seen : List Char) (on : Bool) :
    List Char → Option (Flags × Bool × Char × List Char)
  | [] => none
  | char :: rest =>
    if char = ':' ∨ char = ')' then
      if seen.head? = some '-' then none else some (flags, !seen.isEmpty, char, rest)
    else if seen.contains char then none
    else if char = '-' then readFlags flags ('-' :: seen) false rest
    else
      match flags.set? char on with
      | none => none
      | some flags => readFlags flags (char :: seen) on rest

def inSet (set : CharSet) (char : Char) : Bool :=
  set.contains char.toNat

-- Letters, and after the first character also digits, points and brackets.
def isGroupNameChar (isFirst : Bool) (char : Char) : Bool :=
  let alphabetic := (row? "alphabetic".toList binaryTable).getD .empty
  let numeric := (category? ['n']).getD .empty
  char == '_' || inSet alphabetic char ||
    (!isFirst && (char == '.' || char == '[' || char == ']' || inSet numeric char))

def isGroupName : List Char → Bool
  | [] => false
  | first :: rest => isGroupNameChar true first && rest.all (isGroupNameChar false)

def scanGroupName : Scan Unit := do
  let cursor ← get
  let name := cursor.rest.takeWhile (· != '>')
  let rest := cursor.rest.drop name.length
  if rest.isEmpty || !isGroupName name || cursor.names.contains name then failure
  set { cursor with rest := rest.drop 1, names := name :: cursor.names }

-- The opening of a group. Without a body it only switches modes.
def scanGroupOpening : Scan Bool := do
  advance
  let rest := (← get).rest
  let looksAround := [['?', '='], ['?', '!'], ['?', '<', '='], ['?', '<', '!']]
  if looksAround.any (·.isPrefixOf rest) then failure
  if ← accept ['?', 'P', '<'] then
    scanGroupName
    return true
  else if ← accept ['?', '<'] then
    scanGroupName
    return true
  else if ← accept ['?'] then
    let cursor ← get
    match readFlags cursor.flags [] true cursor.rest with
    | none => failure
    | some (flags, any, closing, rest) =>
      if closing = ')' ∧ !any then failure
      set { cursor with rest := rest, flags := flags }
      return closing == ':'
  else return true

-- A repetition wants something to repeat.
def lastPiece? : List Part → Option (Piece × List Part)
  | some piece :: parts => some (piece, parts)
  | _ => none

def repeatPiece (piece : Piece) (least : Nat) (most : Option Nat) : Part :=
  some ⟨.repeated piece.expr least most, piece.depth + 1⟩

-- The counts in braces.
def scanCounts : Scan (Nat × Option Nat) := do
  advance
  let _ ← peek
  let least ← scanDecimal
  if (← peek) = ',' then
    advance
    if (← peek) = '\x7d' then
      bump
      return (← least, none)
    else
      let least ← least
      let most ← scanDecimal
      let most ← most
      if (← peek) != '\x7d' || most < least then failure
      bump
      return (least, some most)
  else
    if (← peek) != '\x7d' then failure
    bump
    let count ← least
    return (count, some count)

def partOfPrimitive (flags : Flags) : Primitive → Part
  | .literal code _ => some ⟨.set (flags.literal code), 0⟩
  | .set set => some ⟨.set set, 0⟩
  | .look look => some ⟨.look look, 0⟩

def scanPrimitive : Scan Part := do
  let flags := (← get).flags
  let char ← peek
  if char = '\\' then
    let primitive ← scanEscape
    if let .literal code true := primitive then
      if !flags.unicode && 127 < code then failure
    return partOfPrimitive flags primitive
  bump
  if char = '.' then return some ⟨.set (← flags.anyChar?), 0⟩
  else if char = '^' then return some ⟨.look flags.lineStart, 0⟩
  else if char = '$' then return some ⟨.look flags.lineEnd, 0⟩
  else return partOfPrimitive flags (.literal char.toNat false)

-- Alternatives up to a closing parenthesis or the end. The parts of the last
-- sequence and the sequences before it are given with the latest first.
def scanChoice : Nat → List Piece → List Part → Scan Piece
  | 0, _, _ => failure
  | fuel + 1, done, parts => do
    skip
    match ← peek? with
    | none => return choiceOf (sequenceOf parts.reverse :: done).reverse
    | some char =>
      if char = ')' then return choiceOf (sequenceOf parts.reverse :: done).reverse
      else if char = '|' then
        bump
        scanChoice fuel (sequenceOf parts.reverse :: done) []
      else if char = '(' then
        let outer := (← get).flags
        if ← scanGroupOpening then
          let body ← scanChoice fuel [] []
          if (← peek) != ')' then failure
          bump
          modify fun cursor => { cursor with flags := outer }
          scanChoice fuel done (some ⟨body.expr, body.depth + 1⟩ :: parts)
        else scanChoice fuel done (none :: parts)
      else if char = '[' then
        let (negated, opening) ← scanOpening
        let (set, depth) ← scanSet fuel negated opening
        scanChoice fuel done (some ⟨.set set, depth⟩ :: parts)
      else if char = '?' ∨ char = '*' ∨ char = '+' then
        let (piece, parts) ← lastPiece? parts
        bump
        let _ ← accept ['?']
        scanChoice fuel done
          (repeatPiece piece (if char = '+' then 1 else 0) (if char = '?' then some 1 else none) ::
            parts)
      else if char = '\x7b' then
        let (piece, parts) ← lastPiece? parts
        let (least, most) ← scanCounts
        skip
        let _ ← accept ['?']
        scanChoice fuel done (repeatPiece piece least most :: parts)
      else
        let part ← scanPrimitive
        scanChoice fuel done (part :: parts)

-- Groups, repetitions, sequences, alternatives and sets may stand inside one
-- another up to this depth.
def depthLimit : Nat := 250

-- The expression that a pattern writes, if it is well formed.
def parse? (pattern : String) : Option Expr := do
  let chars := pattern.toList
  let (piece, cursor) ← (scanChoice (chars.length + 2) [] []).run ⟨chars, .default, []⟩
  if !cursor.rest.isEmpty || depthLimit < piece.depth then none
  return piece.expr

end NoteVault.Pattern
