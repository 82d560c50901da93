import NoteVault.Text.Line

namespace NoteVault.Path

-- The parts of a path between its slashes, empty ones included.
def parts (path : String) : List (List Char) :=
  Text.splitOn '/' path.toList

def ofParts (parts : List (List Char)) : String :=
  String.ofList (Text.joinWith '/' parts)

-- The parts that name something: neither empty nor a single dot.
def segments (path : String) : List (List Char) :=
  (parts path).filter fun part => part != [] && part != ['.']

-- The path with one slash between its segments and none around them. Segments
-- of two dots are kept, so that a caller can refuse them.
def normalize (path : String) : String :=
  ofParts (segments path)

def hasTraversal (path : String) : Bool :=
  (parts path).any (· == ['.', '.'])

-- The folder itself or a path below it. The folder ends at a slash, so that
-- docs does not hold documents.
def isWithin (path folder : String) : Bool :=
  path == folder || (folder.toList ++ ['/']).isPrefixOf path.toList

-- Two folders collide when one of them holds the other.
def overlap (left right : String) : Bool :=
  isWithin left right || isWithin right left

-- All before the last slash, empty for a path without one.
def parent (path : String) : String :=
  ofParts (parts path).dropLast

-- All after the last slash.
def fileName (path : String) : String :=
  String.ofList ((parts path).getLastD [])

-- The folders around a path, the nearest first and the top folder left out.
def ancestors (path : String) : List String :=
  let parts := parts path
  ((List.range parts.length).reverse.map fun count => ofParts (parts.take count)).filter
    fun folder => !folder.isEmpty

def below (folder name : String) : String :=
  folder ++ "/" ++ name

-- Names directly in the top folder stand alone.
def child (folder name : String) : String :=
  if folder.isEmpty then name else below folder name

def noteExtension : String := ".md"

def isNote (path : String) : Bool :=
  noteExtension.toList.isSuffixOf path.toList

def isPlainNameChar (char : Char) : Bool :=
  char.isAlphanum || char == '_' || char == '-'

-- A subfolder as a file name: slashes become underscores, and of the rest only
-- ASCII letters, digits, underscores and hyphens are kept.
def plainName (subfolder : String) : String :=
  String.ofList ((subfolder.toList.map fun char => if char = '/' then '_' else char).filter
    isPlainNameChar)

theorem ofParts_parts (path : String) : ofParts (parts path) = path := by
  simp [ofParts, parts, Text.joinWith_splitOn]

theorem isWithin_self (path : String) : isWithin path path = true := by
  simp [isWithin]

theorem overlap_comm (left right : String) : overlap left right = overlap right left := by
  simp [overlap, Bool.or_comm]

end NoteVault.Path
