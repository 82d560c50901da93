import NoteVault.Failure
import NoteVault.FrontMatter.Scalar
import NoteVault.Json.Reader

namespace NoteVault.Rules

open Json Text

-- A line of a rules block that says something: its place in the block, the
-- bytes of blanks before it, and its text without blanks around it.
structure Line where
  number : Nat
  indent : Nat
  text : List Char
deriving DecidableEq, Repr

def byteLength : List Char → Nat
  | [] => 0
  | char :: chars => char.utf8Size + byteLength chars

-- Blank lines and lines that start with # say nothing.
def Line.ofChars? (number : Nat) (chars : List Char) : Option Line :=
  let kept := trimEnd chars
  let text := trimStart kept
  if text.isEmpty || text.head? == some '#' then none
  else some ⟨number, byteLength kept - byteLength text, text⟩

-- The lines that say something, with numbers from the given one on.
def linesFrom (number : Nat) : List (List Char) → List Line
  | [] => []
  | chars :: rest =>
    match Line.ofChars? number chars with
    | none => linesFrom (number + 1) rest
    | some line => line :: linesFrom (number + 1) rest

def linesOf (text : String) : List Line :=
  linesFrom 1 (lines text.toList)

-- A list item is a hyphen alone or before a blank.
def Line.isItem (line : Line) : Bool :=
  line.text == ['-'] || ['-', ' '].isPrefixOf line.text

def Line.fault (line : Line) (fault : LineFault) : DocumentFault :=
  .badLine line.number fault (String.ofList line.text)

-- What the lines of a block describe. The entries of a map stand in the order
-- of their lines, repeated keys included.
inductive Node where
  | scalar (value : Value)
  | map (entries : List (String × Node))
  | list (items : List Node)
deriving Repr

namespace Node

mutual

-- Of a repeated key the last entry counts.
def toJson : Node → Value
  | .scalar value => value
  | .map entries => .ofFields (entriesToJson entries)
  | .list items => .array (itemsToJson items)

def entriesToJson : List (String × Node) → List (String × Value)
  | [] => []
  | (key, node) :: entries => (key, toJson node) :: entriesToJson entries

def itemsToJson : List Node → List Value
  | [] => []
  | node :: items => toJson node :: itemsToJson items

end

end Node

def isKeyChar (char : Char) : Bool :=
  char.isAlphanum || char == '_' || char == '-'

-- The key and the value of an entry. A key is made of ASCII letters, digits,
-- underscores and hyphens, and a blank follows its colon unless the line ends.
def splitAtColon? (text : List Char) : Option (List Char × List Char) :=
  match splitAtFirst ':' text with
  | none => none
  | some (key, value) =>
    if !key.isEmpty && key.all isKeyChar && (value.isEmpty || value.head? == some ' ') then
      some (key, trim value)
    else none

-- What opens like a JSON string, array or object is read as JSON, and like a
-- front-matter scalar if that fails.
def readScalar (text : List Char) : Value :=
  match text.head? with
  | some first =>
    if first = '"' ∨ first = '[' ∨ first = '\x7b' then
      (Json.read (String.ofList text)).getD (FrontMatter.coerce text)
    else FrontMatter.coerce text
  | none => FrontMatter.coerce text

-- What follows the hyphen of an item.
def Line.itemText (line : Line) : List Char :=
  trimStart (line.text.drop 1)

-- The line of an item without its hyphen, moved to where the rest begins.
def Line.withoutHyphen (line : Line) : Line :=
  { line with
    indent := line.indent + (byteLength line.text - byteLength line.itemText)
    text := line.itemText }

mutual

-- The node that starts at the first line, and the lines after it. The first
-- line decides between list and map. Four calls for each line are enough fuel.
def readNode : Nat → Nat → List Line → Except DocumentFault (Node × List Line)
  | 0, _, rest => .ok (.scalar .null, rest)
  | _ + 1, _, [] => .ok (.scalar .null, [])
  | fuel + 1, indent, line :: rest =>
    if line.isItem then
      match readList fuel indent (line :: rest) with
      | .error fault => .error fault
      | .ok (items, rest) => .ok (.list items, rest)
    else
      match readMap fuel indent (line :: rest) with
      | .error fault => .error fault
      | .ok (entries, rest) => .ok (.map entries, rest)

-- The value of a key without one on its line: a deeper node, or a list at the
-- depth of the key, or null.
def readChild : Nat → Nat → List Line → Except DocumentFault (Node × List Line)
  | 0, _, rest => .ok (.scalar .null, rest)
  | _ + 1, _, [] => .ok (.scalar .null, [])
  | fuel + 1, indent, line :: rest =>
    if indent < line.indent ∨ (line.indent = indent ∧ line.isItem) then
      readNode fuel line.indent (line :: rest)
    else .ok (.scalar .null, line :: rest)

-- The value of an item without one on its line: a deeper node or null.
def readItemChild : Nat → Nat → List Line → Except DocumentFault (Node × List Line)
  | 0, _, rest => .ok (.scalar .null, rest)
  | _ + 1, _, [] => .ok (.scalar .null, [])
  | fuel + 1, indent, line :: rest =>
    if indent < line.indent then readNode fuel line.indent (line :: rest)
    else .ok (.scalar .null, line :: rest)

-- The entries at the given depth, up to a line that stands less deep.
def readMap : Nat → Nat → List Line → Except DocumentFault (List (String × Node) × List Line)
  | 0, _, rest => .ok ([], rest)
  | _ + 1, _, [] => .ok ([], [])
  | fuel + 1, indent, line :: rest =>
    if line.indent < indent then .ok ([], line :: rest)
    else if indent < line.indent then .error (line.fault .indentation)
    else if line.isItem then .error (line.fault .unexpectedItem)
    else
      match splitAtColon? line.text with
      | none => .error (line.fault .notAnEntry)
      | some (key, value) =>
        match if value.isEmpty then readChild fuel indent rest
          else .ok (.scalar (readScalar value), rest) with
        | .error fault => .error fault
        | .ok (child, rest) =>
          match readMap fuel indent rest with
          | .error fault => .error fault
          | .ok (entries, rest) => .ok ((String.ofList key, child) :: entries, rest)

-- The items at the given depth, up to a line that is no item or stands less
-- deep. An item that is itself an entry opens a map at the depth of its key.
def readList : Nat → Nat → List Line → Except DocumentFault (List Node × List Line)
  | 0, _, rest => .ok ([], rest)
  | _ + 1, _, [] => .ok ([], [])
  | fuel + 1, indent, line :: rest =>
    if line.indent < indent ∨ !line.isItem then .ok ([], line :: rest)
    else if indent < line.indent then .error (line.fault .indentation)
    else
      match if line.itemText.isEmpty then readItemChild fuel indent rest
        else if (splitAtColon? line.itemText).isSome then
          match readMap fuel line.withoutHyphen.indent (line.withoutHyphen :: rest) with
          | .error fault => .error fault
          | .ok (entries, rest) => .ok (.map entries, rest)
        else .ok (.scalar (readScalar line.itemText), rest) with
      | .error fault => .error fault
      | .ok (item, rest) =>
        match readList fuel indent rest with
        | .error fault => .error fault
        | .ok (items, rest) => .ok (item :: items, rest)

end

def fuelFor (lines : List Line) : Nat :=
  4 * lines.length + 4

-- The node of all lines. A line that is left over stands at a wrong depth.
def nodeOfLines : List Line → Except DocumentFault Node
  | [] => .ok (.map [])
  | line :: rest =>
    match readNode (fuelFor (line :: rest)) line.indent (line :: rest) with
    | .error fault => .error fault
    | .ok (node, []) => .ok node
    | .ok (_, left :: _) => .error (left.fault .indentation)

def nodeOfText (text : String) : Except DocumentFault Node :=
  nodeOfLines (linesOf text)

-- The document that a rules block describes. An empty block is an empty object.
def readBlock (text : String) : Except DocumentFault Value :=
  (nodeOfText text).map Node.toJson

end NoteVault.Rules
