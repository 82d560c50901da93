import Mathlib.Data.List.Forall2
import NoteVault.Rules.Block

namespace NoteVault.Rules

-- The same text, deeper by the given depth, at any place in the block.
structure Line.IsShift (depth : Nat) (line other : Line) : Prop where
  text : other.text = line.text
  indent : other.indent = line.indent + depth

-- Two readings that agree: both fail, or both give one result and leave lines that
-- differ by the shift only.
inductive Agree {α : Type} (depth : Nat) :
    Except DocumentFault (α × List Line) → Except DocumentFault (α × List Line) → Prop
  | error (fault other : DocumentFault) : Agree depth (.error fault) (.error other)
  | ok {rest others : List Line} (result : α)
    (h : List.Forall₂ (Line.IsShift depth) rest others) :
    Agree depth (.ok (result, rest)) (.ok (result, others))

-- What an entry holds, with the lines after it.
def readHeld (fuel indent : Nat) (value : List Char) (rest : List Line) :
    Except DocumentFault (Node × List Line) :=
  if value.isEmpty then readChild fuel indent rest
  else .ok (.scalar (readScalar value), rest)

-- One item, its hyphen read, with the lines after it.
def readItem (fuel indent : Nat) (line : Line) (rest : List Line) :
    Except DocumentFault (Node × List Line) :=
  if line.itemText.isEmpty then readItemChild fuel indent rest
  else if (splitAtColon? line.itemText).isSome then
    match readMap fuel line.withoutHyphen.indent (line.withoutHyphen :: rest) with
    | .error fault => .error fault
    | .ok (entries, rest) => .ok (.map entries, rest)
  else .ok (.scalar (readScalar line.itemText), rest)

theorem readMap_cons (fuel indent : Nat) (line : Line) (rest : List Line) :
    readMap (fuel + 1) indent (line :: rest) =
      if line.indent < indent then .ok ([], line :: rest)
      else if indent < line.indent then .error (line.fault .indentation)
      else if line.isItem then .error (line.fault .unexpectedItem)
      else
        match splitAtColon? line.text with
        | none => .error (line.fault .notAnEntry)
        | some (key, value) =>
          match readHeld fuel indent value rest with
          | .error fault => .error fault
          | .ok (child, rest) =>
            match readMap fuel indent rest with
            | .error fault => .error fault
            | .ok (entries, rest) => .ok ((String.ofList key, child) :: entries, rest) := by
  rw [readMap]
  rfl

theorem readList_cons (fuel indent : Nat) (line : Line) (rest : List Line) :
    readList (fuel + 1) indent (line :: rest) =
      if line.indent < indent ∨ !line.isItem then .ok ([], line :: rest)
      else if indent < line.indent then .error (line.fault .indentation)
      else
        match readItem fuel indent line rest with
        | .error fault => .error fault
        | .ok (item, rest) =>
          match readList fuel indent rest with
          | .error fault => .error fault
          | .ok (items, rest) => .ok (item :: items, rest) := by
  rw [readList]
  rfl

section

variable {α : Type} {depth : Nat} {line other : Line}

theorem Agree.cases {left right : Except DocumentFault (α × List Line)} (h : Agree depth left right) :
    (∃ fault other, left = .error fault ∧ right = .error other) ∨
      ∃ result rest others, left = .ok (result, rest) ∧ right = .ok (result, others) ∧
        List.Forall₂ (Line.IsShift depth) rest others := by
  cases h with
  | error fault other => exact .inl ⟨fault, other, rfl, rfl⟩
  | ok result h => exact .inr ⟨result, _, _, rfl, rfl, h⟩

theorem Line.IsShift.isItem (h : line.IsShift depth other) : other.isItem = line.isItem := by
  rw [Line.isItem, Line.isItem, h.text]

theorem Line.IsShift.itemText (h : line.IsShift depth other) : other.itemText = line.itemText := by
  rw [Line.itemText, Line.itemText, h.text]

theorem Line.IsShift.withoutHyphen (h : line.IsShift depth other) :
    line.withoutHyphen.IsShift depth other.withoutHyphen where
  text := h.itemText
  indent := by
    simp only [Line.withoutHyphen, h.text, h.itemText, h.indent]
    omega

end

-- By induction on the fuel. Depths are only compared with each other, and the depth that an
-- item opens is as far from its line in both blocks.
mutual

theorem readNode_shift (depth : Nat) : (fuel indent : Nat) → {lines others : List Line} →
    List.Forall₂ (Line.IsShift depth) lines others →
    Agree depth (readNode fuel indent lines) (readNode fuel (indent + depth) others)
  | 0, _, _, _, h => by
      rw [readNode, readNode]
      exact .ok _ h
  | _ + 1, _, [], [], h => by
      rw [readNode, readNode]
      exact .ok _ h
  | fuel + 1, indent, line :: rest, other :: others, h => by
      obtain ⟨hline, -⟩ := List.forall₂_cons.mp h
      simp only [readNode, hline.isItem]
      split
      · have hlist := readList_shift depth fuel indent h
        obtain ⟨_, _, hleft, hright⟩ | ⟨_, _, _, hleft, hright, h⟩ := hlist.cases <;>
          rw [hleft, hright]
        · exact .error _ _
        · exact .ok _ h
      · have hmap := readMap_shift depth fuel indent h
        obtain ⟨_, _, hleft, hright⟩ | ⟨_, _, _, hleft, hright, h⟩ := hmap.cases <;>
          rw [hleft, hright]
        · exact .error _ _
        · exact .ok _ h

theorem readChild_shift (depth : Nat) : (fuel indent : Nat) → {lines others : List Line} →
    List.Forall₂ (Line.IsShift depth) lines others →
    Agree depth (readChild fuel indent lines) (readChild fuel (indent + depth) others)
  | 0, _, _, _, h => by
      rw [readChild, readChild]
      exact .ok _ h
  | _ + 1, _, [], [], h => by
      rw [readChild, readChild]
      exact .ok _ h
  | fuel + 1, indent, line :: rest, other :: others, h => by
      obtain ⟨hline, -⟩ := List.forall₂_cons.mp h
      have hdeeper : (indent + depth < other.indent ∨
          (other.indent = indent + depth ∧ other.isItem = true)) ↔
          (indent < line.indent ∨ (line.indent = indent ∧ line.isItem = true)) := by
        rw [hline.isItem, hline.indent, Nat.add_lt_add_iff_right, Nat.add_right_cancel_iff]
      simp only [readChild, hdeeper]
      split
      · rw [hline.indent]
        exact readNode_shift depth fuel line.indent h
      · exact .ok _ h

theorem readItemChild_shift (depth : Nat) : (fuel indent : Nat) → {lines others : List Line} →
    List.Forall₂ (Line.IsShift depth) lines others →
    Agree depth (readItemChild fuel indent lines) (readItemChild fuel (indent + depth) others)
  | 0, _, _, _, h => by
      rw [readItemChild, readItemChild]
      exact .ok _ h
  | _ + 1, _, [], [], h => by
      rw [readItemChild, readItemChild]
      exact .ok _ h
  | fuel + 1, indent, line :: rest, other :: others, h => by
      obtain ⟨hline, -⟩ := List.forall₂_cons.mp h
      simp only [readItemChild, hline.indent, Nat.add_lt_add_iff_right]
      split
      · exact readNode_shift depth fuel line.indent h
      · exact .ok _ h

theorem readMap_shift (depth : Nat) : (fuel indent : Nat) → {lines others : List Line} →
    List.Forall₂ (Line.IsShift depth) lines others →
    Agree depth (readMap fuel indent lines) (readMap fuel (indent + depth) others)
  | 0, _, _, _, h => by
      rw [readMap, readMap]
      exact .ok _ h
  | _ + 1, _, [], [], h => by
      rw [readMap, readMap]
      exact .ok _ h
  | fuel + 1, indent, line :: rest, other :: others, h => by
      obtain ⟨hline, hrest⟩ := List.forall₂_cons.mp h
      simp only [readMap_cons, hline.indent, Nat.add_lt_add_iff_right, hline.isItem, hline.text]
      split
      · exact .ok _ h
      split
      · exact .error _ _
      split
      · exact .error _ _
      split
      · exact .error _ _
      rename_i value _
      have hheld : Agree depth (readHeld fuel indent value rest)
          (readHeld fuel (indent + depth) value others) := by
        rw [readHeld, readHeld]
        split
        · exact readChild_shift depth fuel indent hrest
        · exact .ok _ hrest
      obtain ⟨_, _, hleft, hright⟩ | ⟨_, _, _, hleft, hright, hbelow⟩ := hheld.cases <;>
        simp only [hleft, hright]
      · exact .error _ _
      have hmap := readMap_shift depth fuel indent hbelow
      obtain ⟨_, _, hleft, hright⟩ | ⟨_, _, _, hleft, hright, h⟩ := hmap.cases <;>
        simp only [hleft, hright]
      · exact .error _ _
      · exact .ok _ h

theorem readList_shift (depth : Nat) : (fuel indent : Nat) → {lines others : List Line} →
    List.Forall₂ (Line.IsShift depth) lines others →
    Agree depth (readList fuel indent lines) (readList fuel (indent + depth) others)
  | 0, _, _, _, h => by
      rw [readList, readList]
      exact .ok _ h
  | _ + 1, _, [], [], h => by
      rw [readList, readList]
      exact .ok _ h
  | fuel + 1, indent, line :: rest, other :: others, h => by
      obtain ⟨hline, hrest⟩ := List.forall₂_cons.mp h
      simp only [readList_cons, hline.indent, Nat.add_lt_add_iff_right, hline.isItem]
      split
      · exact .ok _ h
      split
      · exact .error _ _
      have hitem : Agree depth (readItem fuel indent line rest)
          (readItem fuel (indent + depth) other others) := by
        rw [readItem, readItem, hline.itemText]
        split
        · exact readItemChild_shift depth fuel indent hrest
        split
        · have hmoved := hline.withoutHyphen
          rw [hmoved.indent]
          have hmap := readMap_shift depth fuel line.withoutHyphen.indent (.cons hmoved hrest)
          obtain ⟨_, _, hleft, hright⟩ | ⟨_, _, _, hleft, hright, h⟩ := hmap.cases <;>
            simp only [hleft, hright]
          · exact .error _ _
          · exact .ok _ h
        · exact .ok _ hrest
      obtain ⟨_, _, hleft, hright⟩ | ⟨_, _, _, hleft, hright, hbelow⟩ := hitem.cases <;>
        simp only [hleft, hright]
      · exact .error _ _
      have hlist := readList_shift depth fuel indent hbelow
      obtain ⟨_, _, hleft, hright⟩ | ⟨_, _, _, hleft, hright, h⟩ := hlist.cases <;>
        simp only [hleft, hright]
      · exact .error _ _
      · exact .ok _ h

end

-- Lines that are all deeper by one depth mean the same block, or none.
theorem nodeOfLines_shift {depth : Nat} {lines others : List Line}
    (h : List.Forall₂ (Line.IsShift depth) lines others) (node : Node) :
    nodeOfLines lines = .ok node ↔ nodeOfLines others = .ok node := by
  cases h with
  | nil => exact Iff.rfl
  | @cons line other rest others hline hrest =>
      have hlines : List.Forall₂ (Line.IsShift depth) (line :: rest) (other :: others) :=
        .cons hline hrest
      have hfuel : fuelFor (other :: others) = fuelFor (line :: rest) := by
        rw [fuelFor, fuelFor, hlines.length_eq]
      have hread := readNode_shift depth (fuelFor (line :: rest)) line.indent hlines
      simp only [nodeOfLines, hfuel, hline.indent]
      generalize readNode (fuelFor (line :: rest)) line.indent (line :: rest) = left at hread
      generalize readNode (fuelFor (line :: rest)) (line.indent + depth) (other :: others) = right
        at hread
      cases hread with
      | error fault other => simp
      | ok result h => cases h <;> simp

end NoteVault.Rules
