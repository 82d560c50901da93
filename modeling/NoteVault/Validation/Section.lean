import NoteVault.Text.Basic
import NoteVault.Text.CaseFold

namespace NoteVault.Validation

open Text

-- Whether nothing but blanks stands before the end of the line.
def endsLine (chars : List Char) : Bool :=
  match chars.dropWhile fun char => isBlank char && char != '\n' with
  | [] => true
  | char :: _ => char == '\n'

-- A title at the start of the text, in any case, and then the end of the line.
def startsWithTitle : List Char → List Char → Bool
  | [], chars => endsLine chars
  | _ :: _, [] => false
  | letter :: title, char :: chars => sameLetter letter char && startsWithTitle title chars

-- A title after one or more blanks. A title that starts with blanks itself may
-- take any part of them.
def titleAfterBlanks (title : List Char) : List Char → Bool
  | [] => false
  | char :: chars => isBlank char && (startsWithTitle title chars || titleAfterBlanks title chars)

-- A heading at the start of the text: hashes, blanks and the title. The blanks
-- may hold line feeds.
def startsWithHeading (title : List Char) : List Char → Bool
  | '#' :: chars => titleAfterBlanks title (chars.dropWhile (· == '#'))
  | _ => false

-- A heading at the start of a line after the first.
def headingBelow (title : List Char) : List Char → Bool
  | [] => false
  | char :: chars => char == '\n' && startsWithHeading title chars || headingBelow title chars

-- Whether the body has a heading of any depth with the title.
def hasSection (body title : String) : Bool :=
  startsWithHeading title.toList body.toList || headingBelow title.toList body.toList

end NoteVault.Validation
