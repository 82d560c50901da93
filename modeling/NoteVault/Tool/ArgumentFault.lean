import NoteVault.Json.Writer
import NoteVault.Pattern.Property

namespace NoteVault

namespace Tool

open Pattern

-- Characters that join the one before them.
def joiners : CharSet :=
  (row? "graphemeextend".toList binaryTable).getD .empty

-- Characters without a picture, and all blanks.
def unseen : CharSet :=
  unionOf (["cc", "cf", "cn", "co", "zl", "zp", "zs"].filterMap fun name =>
    row? name.toList categoryTable)

def needsCode (char : Char) : Bool :=
  if char.toNat < 128 then char.toNat < 32 || char.toNat == 127
  else joiners.contains char.toNat || unseen.contains char.toNat

-- The form in which a character of a quoted text is shown.
def shownChar (char : Char) : List Char :=
  if char = '"' then ['\\', '"']
  else if char = '\\' then ['\\', '\\']
  else if char = '\n' then ['\\', 'n']
  else if char = '\r' then ['\\', 'r']
  else if char = '\t' then ['\\', 't']
  else if char = '\x00' then ['\\', '0']
  else if needsCode char then "\\u\x7b".toList ++ Nat.toDigits 16 char.toNat ++ ['\x7d']
  else [char]

-- A text in quotes, as messages show it.
def quoted (text : String) : String :=
  String.ofList ('"' :: text.toList.flatMap shownChar ++ ['"'])

end Tool

open Json

-- What is wrong with the arguments of a tool.
inductive ArgumentFault where
  | missing (parameter : String)
  | wrongType (value : Value) (expected : String)
  | wrongLength (length : Nat) (expected : String)
deriving DecidableEq, Repr

namespace ArgumentFault

-- A value as messages name it.
def describe : Value → String
  | .null => "null"
  | .bool true => "boolean `true`"
  | .bool false => "boolean `false`"
  | .number (.integer value) => s!"integer `{String.ofList (integerChars value)}`"
  | .number (.double value) => s!"floating point `{String.ofList (doubleChars value)}`"
  | .string text => "string " ++ Tool.quoted text
  | .array _ => "sequence"
  | .object _ => "map"

def message : ArgumentFault → String
  | .missing parameter => s!"missing field `{parameter}`"
  | .wrongType value expected => s!"invalid type: {describe value}, expected {expected}"
  | .wrongLength length expected => s!"invalid length {length}, expected {expected}"

end ArgumentFault

end NoteVault
