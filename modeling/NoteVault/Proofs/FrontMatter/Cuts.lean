import NoteVault.FrontMatter.Scalar

namespace NoteVault.FrontMatter

-- The characters that mean something to a cutter of inline arrays.
def marks : List Char := ['"', '\'', '[', ']', ',']

-- A text that no cut falls into, with the open quote and the depth of the brackets
-- before and after it.
inductive Uncut : Option Char → Int → List Char → Option Char → Int → Prop
  | nil {quote : Option Char} {depth : Int} : Uncut quote depth [] quote depth
  | quoted {mark char : Char} {depth last : Int} {rest : List Char} {quote : Option Char}
    (hne : char ≠ mark) (h : Uncut (some mark) depth rest quote last) :
    Uncut (some mark) depth (char :: rest) quote last
  | closing {mark : Char} {depth last : Int} {rest : List Char} {quote : Option Char}
    (h : Uncut none depth rest quote last) : Uncut (some mark) depth (mark :: rest) quote last
  | opening {mark : Char} {depth last : Int} {rest : List Char} {quote : Option Char}
    (hmark : isQuote mark = true) (h : Uncut (some mark) depth rest quote last) :
    Uncut none depth (mark :: rest) quote last
  | deeper {depth last : Int} {rest : List Char} {quote : Option Char}
    (h : Uncut none (depth + 1) rest quote last) : Uncut none depth ('[' :: rest) quote last
  | higher {depth last : Int} {rest : List Char} {quote : Option Char}
    (h : Uncut none (depth - 1) rest quote last) : Uncut none depth (']' :: rest) quote last
  | comma {depth last : Int} {rest : List Char} {quote : Option Char} (hdepth : depth ≠ 0)
    (h : Uncut none depth rest quote last) : Uncut none depth (',' :: rest) quote last
  | plain {char : Char} {depth last : Int} {rest : List Char} {quote : Option Char}
    (hchar : char ∉ marks) (h : Uncut none depth rest quote last) :
    Uncut none depth (char :: rest) quote last

variable {quote next final : Option Char} {depth later last : Int} {text others rest : List Char}

theorem Uncut.append (h : Uncut quote depth text next later)
    (hothers : Uncut next later others final last) :
    Uncut quote depth (text ++ others) final last := by
  induction h with
  | nil => exact hothers
  | quoted hne _ ih => exact .quoted hne (ih hothers)
  | closing _ ih => exact .closing (ih hothers)
  | opening hmark _ ih => exact .opening hmark (ih hothers)
  | deeper _ ih => exact .deeper (ih hothers)
  | higher _ ih => exact .higher (ih hothers)
  | comma hdepth _ ih => exact .comma hdepth (ih hothers)
  | plain hchar _ ih => exact .plain hchar (ih hothers)

-- Text without marks leaves the reading as it is.
theorem uncut_of_plain (h : ∀ char ∈ text, char ∉ marks) : Uncut none depth text none depth := by
  induction text with
  | nil => exact .nil
  | cons char text ih =>
      obtain ⟨hchar, htext⟩ := List.forall_mem_cons.mp h
      exact .plain hchar (ih htext)

theorem uncut_inside_quotes {mark : Char} (h : mark ∉ text) :
    Uncut (some mark) depth text (some mark) depth := by
  induction text with
  | nil => exact .nil
  | cons char text ih =>
      rw [List.mem_cons, not_or] at h
      exact .quoted (Ne.symm h.1) (ih h.2)

-- A text in quotes, whatever commas and brackets it has.
theorem uncut_quoted {mark : Char} (hmark : isQuote mark = true) (h : mark ∉ text) :
    Uncut none depth (mark :: (text ++ [mark])) none depth :=
  .opening hmark ((uncut_inside_quotes h).append (.closing .nil))

theorem foldr_consPart (text part : List Char) (parts : List (List Char)) :
    text.foldr consPart (part :: parts) = (text ++ part) :: parts := by
  induction text with
  | nil => rfl
  | cons char text ih => simp [ih, consPart]

-- Uncut text goes to the first part of what follows it.
theorem splitTopLevel_append (h : Uncut quote depth text next later) (rest : List Char) :
    splitTopLevel quote depth (text ++ rest) =
      text.foldr consPart (splitTopLevel next later rest) := by
  induction h with
  | nil => rfl
  | quoted hne _ ih => simp [splitTopLevel, hne, ih]
  | closing _ ih => simp [splitTopLevel, ih]
  | opening hmark _ ih => simp [splitTopLevel, hmark, ih]
  | deeper _ ih => simp [splitTopLevel, show isQuote '[' = false by decide, ih]
  | higher _ ih => simp [splitTopLevel, show isQuote ']' = false by decide, ih]
  | comma hdepth _ ih => simp [splitTopLevel, show isQuote ',' = false by decide, hdepth, ih]
  | plain hchar _ ih =>
      simp only [marks, List.mem_cons, List.not_mem_nil, or_false, not_or] at hchar
      obtain ⟨hdouble, hsingle, hopen, hclose, hcomma⟩ := hchar
      simp [splitTopLevel, isQuote, hdouble, hsingle, hopen, hclose, hcomma, ih]

theorem splitTopLevel_uncut (h : Uncut quote depth text next later) :
    splitTopLevel quote depth text = [text] := by
  have hnil : splitTopLevel next later [] = [[]] := by
    cases next <;> rfl
  have hsplit := splitTopLevel_append h []
  rwa [List.append_nil, hnil, foldr_consPart, List.append_nil] at hsplit

-- The comma after an uncut text is cut when all quotes and brackets are closed.
theorem splitTopLevel_comma (h : Uncut quote depth text none 0) (rest : List Char) :
    splitTopLevel quote depth (text ++ ',' :: rest) = text :: splitTopLevel none 0 rest := by
  have hcut : splitTopLevel none 0 (',' :: rest) = [] :: splitTopLevel none 0 rest := by
    simp [splitTopLevel, show isQuote ',' = false by decide]
  rw [splitTopLevel_append h, hcut, foldr_consPart, List.append_nil]

end NoteVault.FrontMatter
