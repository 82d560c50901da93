import NoteVault.Pattern.CharSet
import NoteVault.Pattern.Property.Age
import NoteVault.Pattern.Property.Binary
import NoteVault.Pattern.Property.Category
import NoteVault.Pattern.Property.Script
import NoteVault.Pattern.Property.Segmentation
import NoteVault.Text.Line

namespace NoteVault.Pattern

open Text

def hexDigitValue (char : Char) : Nat :=
  if char.isDigit then char.toNat - 48
  else if 'a' ≤ char then char.toNat - 87
  else char.toNat - 55

def hexNumber (digits : List Char) : Nat :=
  digits.foldl (fun total digit => total * 16 + hexDigitValue digit) 0

-- Reads the ranges of a table. Each is written as its distance from the end of
-- the one before it and the number of further characters.
def decodeRanges (start : Nat) (ranges : Ranges) : List (List Char) → Ranges
  | [] => ranges
  | word :: words =>
    let (gap, further) :=
      match splitAtFirst '+' word with
      | none => (hexNumber word, 0)
      | some (gap, further) => (hexNumber gap, hexNumber further)
    let first := start + gap
    decodeRanges (first + further + 1) (ranges.push (first, first + further)) words

def tableSet (lines : List String) : CharSet :=
  .ofRanges (decodeRanges 0 #[] (lines.flatMap fun line => splitOn ' ' line.toList))

-- The row of a table that lists a name.
def row? (name : List Char) (table : List (String × List String)) : Option CharSet :=
  (table.find? fun row => (splitOn ' ' row.1.toList).contains name).map fun row => tableSet row.2

def isNameChar (char : Char) : Bool :=
  char != ' ' && char != '_' && char != '-' && char.toNat < 128

def dropIs : List Char → List Char
  | first :: second :: rest =>
    if first.toLower = 'i' ∧ second.toLower = 's' then rest else first :: second :: rest
  | name => name

-- Names are compared without case, blanks, hyphens and underscores, and
-- without an is in front. The name isc is no c with an is in front.
def normalizeName (name : List Char) : List Char :=
  let kept := ((dropIs name).filter isNameChar).map Char.toLower
  if kept = ['c'] ∧ dropIs name ≠ name then ['i', 's', 'c'] else kept

-- Categories that are unions of others.
def categoryGroups : List (List String × List String) := [
  (["lc", "casedletter"], ["lu", "ll", "lt"]),
  (["l", "letter"], ["lu", "ll", "lt", "lm", "lo"]),
  (["m", "mark", "combiningmark"], ["mn", "mc", "me"]),
  (["n", "number"], ["nd", "nl", "no"]),
  (["p", "punctuation", "punct"], ["pc", "pd", "ps", "pe", "pi", "pf", "po"]),
  (["s", "symbol"], ["sm", "sc", "sk", "so"]),
  (["z", "separator"], ["zs", "zl", "zp"]),
  (["c", "other"], ["cc", "cf", "co", "cn"])]

def unionOf : List CharSet → CharSet
  | [] => .empty
  | [set] => set
  | set :: next :: sets => .union set (unionOf (next :: sets))

def category? (name : List Char) : Option CharSet :=
  let text := String.ofList name
  if text = "any" then some (.complement .empty)
  else if text = "ascii" then some (.range 0 127)
  else if text = "assigned" then (row? ['c', 'n'] categoryTable).map .complement
  else
    match categoryGroups.find? fun group => group.1.contains text with
    | some group =>
      some (unionOf (group.2.filterMap fun part => row? part.toList categoryTable))
    | none => row? name categoryTable

def script? (name : List Char) : Option CharSet :=
  row? name scriptTable

-- A script without a row of its own extends to no further characters.
def scriptExtension? (name : List Char) : Option CharSet :=
  (row? name scriptExtensionTable).or (script? name)

-- The characters of a version are those that it and its predecessors added.
def age? (name : List Char) : Option CharSet :=
  let holds (row : String × List String) : Bool := (splitOn ' ' row.1.toList).contains name
  match ageTable.span fun row => !holds row with
  | (_, []) => none
  | (earlier, last :: _) => some (unionOf ((earlier ++ [last]).map fun row => tableSet row.2))

-- A property by one name: a binary property, a general category or a script.
def namedSet? (name : List Char) : Option CharSet :=
  let name := normalizeName name
  ((row? name binaryTable).or (category? name)).or (script? name)

-- A property by its name and the name of its value.
def valuedSet? (property value : List Char) : Option CharSet :=
  let property := String.ofList (normalizeName property)
  let value := normalizeName value
  if ["gc", "generalcategory"].contains property then category? value
  else if ["sc", "script"].contains property then script? value
  else if ["scx", "scriptextensions"].contains property then scriptExtension? value
  else if property = "age" then age? value
  else if ["gcb", "graphemeclusterbreak"].contains property then row? value graphemeBreakTable
  else if ["wb", "wordbreak"].contains property then row? value wordBreakTable
  else if ["sb", "sentencebreak"].contains property then row? value sentenceBreakTable
  else none

def decimalDigits : CharSet :=
  (row? ['n', 'd'] categoryTable).getD .empty

def blanks : CharSet :=
  (row? "whitespace".toList binaryTable).getD .empty

-- The characters of words: letters, marks, decimal digits, connectors and joiners.
def wordChars : CharSet :=
  unionOf ([row? "alphabetic".toList binaryTable, category? ['m'], row? ['n', 'd'] categoryTable,
    row? ['p', 'c'] categoryTable, row? "joincontrol".toList binaryTable].filterMap id)

def asciiDigits : CharSet := .range 48 57

def asciiBlanks : CharSet := .ofRanges #[(9, 13), (32, 32)]

def asciiWordChars : CharSet := .ofRanges #[(48, 57), (65, 90), (95, 95), (97, 122)]

-- The classes that are written between colons.
def asciiClass? (name : List Char) : Option CharSet :=
  let text := String.ofList name
  let table : List (String × Ranges) := [
    ("alnum", #[(48, 57), (65, 90), (97, 122)]), ("alpha", #[(65, 90), (97, 122)]),
    ("ascii", #[(0, 127)]), ("blank", #[(9, 9), (32, 32)]), ("cntrl", #[(0, 31), (127, 127)]),
    ("digit", #[(48, 57)]), ("graph", #[(33, 126)]), ("lower", #[(97, 122)]),
    ("print", #[(32, 126)]), ("punct", #[(33, 47), (58, 64), (91, 96), (123, 126)]),
    ("space", #[(9, 13), (32, 32)]), ("upper", #[(65, 90)]),
    ("word", #[(48, 57), (65, 90), (95, 95), (97, 122)]),
    ("xdigit", #[(48, 57), (65, 70), (97, 102)])]
  (table.find? fun row => row.1 == text).map fun row => .ofRanges row.2

end NoteVault.Pattern
