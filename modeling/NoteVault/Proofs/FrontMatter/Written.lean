import NoteVault.Proofs.FrontMatter.Fields
import NoteVault.Proofs.FrontMatter.Frame

namespace NoteVault.FrontMatter

open Json Text

-- The text that the header of a note gives last for a key.
def HasEntry (note : String) (key : String) (value : List Char) : Prop :=
  ∃ opening inner closing body items, Framed note.toList opening inner closing body ∧
    (∀ line ∈ inner, withoutLineEnd line ≠ delimiter) ∧
    LastEntry ((inner.map withoutLineEnd).filter fun line => ¬ IsSilent line) key value items

variable {note key : String} {value : List Char}

-- A value with a text of its own is read from that text alone.
theorem get?_of_hasEntry (h : HasEntry note key value) (hvalue : value ≠ [] ∧ value ≠ ['[', ']']) :
    Keyed.get? key (Note.ofText note).fields = some (coerce value) := by
  obtain ⟨opening, inner, closing, body, items, hframed, hinner, hlast⟩ := h
  have hsplit := splitHeader_eq_some_iff.mpr ⟨opening, inner, closing, hframed, hinner, rfl⟩
  rw [ofText_of_splitHeader hsplit, get?_readFields_of_lastEntry hlast, fieldValue, if_pos hvalue]

-- A header of one line.
theorem hasEntry_of_line (line body : List Char) (hentry : IsEntry line key value)
    (hspoken : ¬ IsSilent line) (hline : IsLine line) (hne : line ≠ delimiter)
    (hnote : note.toList = delimiter ++ '\n' :: (line ++ '\n' :: (delimiter ++ '\n' :: body))) :
    HasEntry note key value := by
  have hdelimiter : IsFull (delimiter ++ ['\n']) := ⟨delimiter, by decide, rfl⟩
  have hplain : withoutLineEnd (delimiter ++ ['\n']) = delimiter := by decide
  have hwithout : withoutLineEnd (line ++ ['\n']) = line :=
    withoutLineEnd_line fun h => (hline _ h).2 rfl
  have hfull : IsFull (line ++ ['\n']) := ⟨line, fun h => (hline _ h).1 rfl, rfl⟩
  have hframed : Framed note.toList (delimiter ++ ['\n']) [line ++ ['\n']]
      (delimiter ++ ['\n']) body :=
    ⟨by simp [hnote], ⟨hdelimiter, hplain⟩, by simpa using hfull, hplain, .inl hdelimiter⟩
  have hlast : LastEntry [line] key value [] :=
    ⟨[], line, [], rfl, hentry, by simp, by simp, by simp⟩
  refine ⟨_, _, _, body, [], hframed, by simpa [hwithout] using hne, ?_⟩
  simpa [hwithout, hspoken] using hlast

end NoteVault.FrontMatter
