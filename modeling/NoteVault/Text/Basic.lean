namespace NoteVault.Text

-- The characters of the Unicode property White_Space.
def isBlank (char : Char) : Bool :=
  let code := char.toNat
  (9 ≤ code && code ≤ 13) || code == 0x20 || code == 0x85 || code == 0xA0 || code == 0x1680 ||
  (0x2000 ≤ code && code ≤ 0x200A) || code == 0x2028 || code == 0x2029 || code == 0x202F ||
  code == 0x205F || code == 0x3000

def trimStart (chars : List Char) : List Char :=
  chars.dropWhile isBlank

def trimEnd (chars : List Char) : List Char :=
  (chars.reverse.dropWhile isBlank).reverse

-- Removes the blanks at both ends and keeps those inside.
def trim (chars : List Char) : List Char :=
  trimEnd (trimStart chars)

def trimmed (text : String) : String :=
  String.ofList (trim text.toList)

-- A text of blanks only, the empty text among them.
def isAllBlank (text : String) : Bool :=
  text.toList.all isBlank

theorem trim_nil : trim [] = [] := rfl

-- The ten ASCII digits.
def isDigit (char : Char) : Bool :=
  '0' ≤ char && char ≤ '9'

def digitValue (char : Char) : Nat :=
  char.toNat - 48

-- The number that decimal digits write, zero for none.
def digitsValue (digits : List Char) : Nat :=
  digits.foldl (fun total digit => total * 10 + digitValue digit) 0

end NoteVault.Text
