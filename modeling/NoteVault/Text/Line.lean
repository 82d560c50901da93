namespace NoteVault.Text

-- Cuts at every separator. There is always at least one part.
def splitOn (separator : Char) : List Char → List (List Char)
  | [] => [[]]
  | char :: rest =>
    if char = separator then [] :: splitOn separator rest
    else
      match splitOn separator rest with
      | [] => [[char]]
      | part :: parts => (char :: part) :: parts

-- Writes the parts with the separator between them.
def joinWith (separator : Char) : List (List Char) → List Char
  | [] => []
  | [part] => part
  | part :: next :: parts => part ++ separator :: joinWith separator (next :: parts)

-- The text before and after the first separator.
def splitAtFirst (separator : Char) : List Char → Option (List Char × List Char)
  | [] => none
  | char :: rest =>
    if char = separator then some ([], rest)
    else (splitAtFirst separator rest).map fun (before, after) => (char :: before, after)

-- Lines with their line feeds: every piece but the last ends with one,
-- and the pieces together are the text.
def pieces : List Char → List (List Char)
  | [] => []
  | char :: rest =>
    if char = '\n' then [char] :: pieces rest
    else
      match pieces rest with
      | [] => [[char]]
      | piece :: others => (char :: piece) :: others

def withoutLast (char : Char) (chars : List Char) : List Char :=
  if chars.getLast? = some char then chars.dropLast else chars

-- A piece without its line feed and then without one carriage return.
def withoutLineEnd (piece : List Char) : List Char :=
  withoutLast '\r' (withoutLast '\n' piece)

-- The lines of a text. A carriage return belongs to the line end only
-- when a line feed follows it.
def lines (chars : List Char) : List (List Char) :=
  (pieces chars).map fun piece =>
    if piece.getLast? = some '\n' then withoutLineEnd piece else piece

theorem pieces_flatten (chars : List Char) : (pieces chars).flatten = chars := by
  induction chars with
  | nil => rfl
  | cons char rest ih =>
    simp only [pieces]
    split
    · simp [ih]
    · split
      · next h => rw [h] at ih; simp at ih; simp [← ih]
      · next piece others h => rw [h] at ih; simp at ih; simp [ih]

theorem splitOn_ne_nil (separator : Char) (chars : List Char) : splitOn separator chars ≠ [] := by
  induction chars with
  | nil => simp [splitOn]
  | cons char rest ih =>
    simp only [splitOn]
    split
    · simp
    · split <;> simp

theorem joinWith_splitOn (separator : Char) (chars : List Char) :
    joinWith separator (splitOn separator chars) = chars := by
  induction chars with
  | nil => rfl
  | cons char rest ih =>
    simp only [splitOn]
    split
    · next h =>
      cases hs : splitOn separator rest with
      | nil => exact absurd hs (splitOn_ne_nil separator rest)
      | cons part parts => rw [hs] at ih; simp [joinWith, ih, h]
    · cases hs : splitOn separator rest with
      | nil => exact absurd hs (splitOn_ne_nil separator rest)
      | cons part parts =>
        rw [hs] at ih
        cases parts <;> simp_all [joinWith]

end NoteVault.Text
