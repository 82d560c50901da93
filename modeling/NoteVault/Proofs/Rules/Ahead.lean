import NoteVault.Proofs.Rules.Cursor

namespace NoteVault.Rules

-- Two readings that agree: both find the same fault, or both give the same result, with the
-- lines ahead of the cursor left.
inductive Matches {count : Nat} {α : Type} :
    Except DocumentFault (α × List Line) → Except Halt (α × Cursor count) → Prop
  | error (fault : DocumentFault) : Matches (.error fault) (.error (.badBlock fault))
  | ok (result : α) (after : Cursor count) :
    Matches (.ok (result, after.rest)) (.ok (result, after))

section

variable {count : Nat} {α : Type} {left : Except DocumentFault (α × List Line)}
  {right : Except Halt (α × Cursor count)}

theorem Matches.cases (h : Matches left right) :
    (∃ fault, left = .error fault ∧ right = .error (.badBlock fault)) ∨
      ∃ result after, left = .ok (result, after.rest) ∧ right = .ok (result, after) := by
  cases h with
  | error fault => exact .inl ⟨fault, rfl, rfl⟩
  | ok result after => exact .inr ⟨result, after, rfl, rfl⟩

-- Behind the last line there is nothing to read.
theorem Matches.of_end {cursor : Cursor count}
    {read : List Line → Except DocumentFault (α × List Line)} (hend : ¬cursor.position < count)
    (result : α) (hleft : read [] = .ok (result, []))
    (hright : right = .ok (result, cursor)) : Matches (read cursor.rest) right := by
  have hrest := cursor.rest_of_not_lt hend
  rw [hrest, hleft, hright, ← hrest]
  exact .ok result cursor

end

namespace Cursor

variable {count : Nat}

-- By induction on the fuel. A line costs four calls: a child, its node, its list and the map
-- that an item of the list opens.
mutual

theorem readNode_matches : (fuel indent : Nat) → (cursor : Cursor count) →
    cursor.position < count → 4 * cursor.ahead + 2 ≤ fuel →
    Matches (Rules.readNode fuel indent cursor.rest) (cursor.readNode indent)
  | fuel + 1, indent, cursor, hin, hfuel => by
      rw [cursor.rest_of_lt hin, Rules.readNode, Cursor.readNode, dif_pos hin,
        ← cursor.rest_of_lt hin]
      split
      · have hlist := readList_matches fuel indent cursor (by omega)
        obtain ⟨_, hleft, hright⟩ | ⟨_, _, hleft, hright⟩ := hlist.cases <;> rw [hleft, hright]
        · exact .error _
        · exact .ok _ _
      · have hmap := readMap_matches fuel indent cursor (by omega)
        obtain ⟨_, hleft, hright⟩ | ⟨_, _, hleft, hright⟩ := hmap.cases <;> rw [hleft, hright]
        · exact .error _
        · exact .ok _ _

theorem readChild_matches : (fuel indent : Nat) → (cursor : Cursor count) →
    4 * cursor.ahead + 3 ≤ fuel →
    Matches (Rules.readChild fuel indent cursor.rest) (cursor.readChild indent)
  | fuel + 1, indent, cursor, hfuel => by
      by_cases hin : cursor.position < count
      · rw [cursor.rest_of_lt hin, Rules.readChild, Cursor.readChild, dif_pos hin,
          ← cursor.rest_of_lt hin]
        dsimp only
        split
        · exact readNode_matches fuel _ cursor hin (by omega)
        · exact .ok _ cursor
      · exact .of_end hin (.scalar .null) (by rw [Rules.readChild])
          (by rw [Cursor.readChild, dif_neg hin])

theorem readItemChild_matches : (fuel indent : Nat) → (cursor : Cursor count) →
    4 * cursor.ahead + 3 ≤ fuel →
    Matches (Rules.readItemChild fuel indent cursor.rest) (cursor.readItemChild indent)
  | fuel + 1, indent, cursor, hfuel => by
      by_cases hin : cursor.position < count
      · rw [cursor.rest_of_lt hin, Rules.readItemChild, Cursor.readItemChild, dif_pos hin,
          ← cursor.rest_of_lt hin]
        dsimp only
        split
        · exact readNode_matches fuel _ cursor hin (by omega)
        · exact .ok _ cursor
      · exact .of_end hin (.scalar .null) (by rw [Rules.readItemChild])
          (by rw [Cursor.readItemChild, dif_neg hin])

theorem readMap_matches : (fuel indent : Nat) → (cursor : Cursor count) →
    4 * cursor.ahead ≤ fuel →
    Matches (Rules.readMap fuel indent cursor.rest) (cursor.readMap indent)
  | 0, indent, cursor, hfuel => by
      have hend : ¬cursor.position < count := fun hin =>
        absurd (cursor.ahead_next_lt hin) (by omega)
      exact .of_end hend [] (by rw [Rules.readMap])
        (by rw [Cursor.readMap, mapTurn, dif_neg hend]; rfl)
  | fuel + 1, indent, cursor, hfuel => by
      by_cases hin : cursor.position < count
      · rw [cursor.rest_of_lt hin, readMap_cons, Cursor.readMap, cursor.mapTurn_of_lt indent hin]
        split
        · rw [← cursor.rest_of_lt hin]
          exact .ok _ cursor
        split
        · exact .error _
        split
        · exact .error _
        cases splitAtColon? (cursor.line hin).text with
        | none => exact .error _
        | some entry =>
            obtain ⟨key, value⟩ := entry
            have hnext := cursor.ahead_next_lt hin
            have hheld : Matches (Rules.readHeld fuel indent value (cursor.next hin).rest)
                ((cursor.next hin).readHeld indent value) := by
              rw [Rules.readHeld, Cursor.readHeld]
              split
              · exact readChild_matches fuel indent (cursor.next hin) (by omega)
              · exact .ok _ (cursor.next hin)
            obtain ⟨_, hleft, hright⟩ | ⟨child, after, hleft, hright⟩ := hheld.cases <;>
              simp only [hleft, hright]
            · exact .error _
            have hmoved : cursor.position < after.position := position_le_of_readHeld hright
            have hahead := ahead_lt_of_position_lt hmoved
            rw [moving_of_lt _ hmoved]
            have hmap := readMap_matches fuel indent after (by omega)
            obtain ⟨_, hleft, hright⟩ | ⟨_, _, hleft, hright⟩ := hmap.cases <;>
              simp only [hleft, hright]
            · exact .error _
            · exact .ok _ _
      · exact .of_end hin [] (by rw [Rules.readMap])
          (by rw [Cursor.readMap, mapTurn, dif_neg hin]; rfl)

theorem readList_matches : (fuel indent : Nat) → (cursor : Cursor count) →
    4 * cursor.ahead + 1 ≤ fuel →
    Matches (Rules.readList fuel indent cursor.rest) (cursor.readList indent)
  | fuel + 1, indent, cursor, hfuel => by
      by_cases hin : cursor.position < count
      · rw [cursor.rest_of_lt hin, readList_cons, Cursor.readList, cursor.listTurn_of_lt indent hin]
        split
        · rw [← cursor.rest_of_lt hin]
          exact .ok _ cursor
        rename_i hitem
        split
        · exact .error _
        have hbyte : (cursor.line hin).startsWithByte = true :=
          Line.startsWithByte_of_isItem (by simpa using fun hnot => hitem (.inr hnot))
        have hnext := cursor.ahead_next_lt hin
        have hread : Matches (Rules.readItem fuel indent (cursor.line hin) (cursor.next hin).rest)
            (cursor.readItem hin indent) := by
          rw [Rules.readItem, Cursor.readItem]
          split
          · exact readItemChild_matches fuel indent (cursor.next hin) (by omega)
          split
          · have hmap := readMap_matches fuel (cursor.line hin).withoutHyphen.indent
              (cursor.overwrite hin (cursor.line hin).withoutHyphen)
              (show 4 * cursor.ahead ≤ fuel by omega)
            rw [rest_overwrite] at hmap
            obtain ⟨_, hleft, hright⟩ | ⟨_, _, hleft, hright⟩ := hmap.cases <;>
              simp only [hleft, hright]
            · exact .error _
            · exact .ok _ _
          · exact .ok _ (cursor.next hin)
        simp only [hbyte, Bool.not_true, Bool.false_eq_true, if_false]
        obtain ⟨_, hleft, hright⟩ | ⟨item, after, hleft, hright⟩ := hread.cases <;>
          simp only [hleft, hright]
        · exact .error _
        have hmoved : cursor.position < after.position := position_lt_of_readItem hright
        have hahead := ahead_lt_of_position_lt hmoved
        rw [moving_of_lt _ hmoved]
        have hlist := readList_matches fuel indent after (by omega)
        obtain ⟨_, hleft, hright⟩ | ⟨_, _, hleft, hright⟩ := hlist.cases <;>
          simp only [hleft, hright]
        · exact .error _
        · exact .ok _ _
      · exact .of_end hin [] (by rw [Rules.readList])
          (by rw [Cursor.readList, listTurn, dif_neg hin]; rfl)

end

-- The whole block. It starts at the depth of its first line, and no line may be left over.
def readLines : List Line → Except Halt Node
  | [] => .ok (.map [])
  | first :: others =>
    match (ofLines (first :: others)).readNode first.indent with
    | .error halt => .error halt
    | .ok (node, after) =>
      if hin : after.position < (first :: others).length then
        .error (.badBlock ((after.line hin).fault .indentation))
      else .ok node

-- A reading over the buffer ends as the reading of the lines does. So it never looks at a line
-- or a character that is not there, and no turn of its loops comes back to where it was.
theorem readLines_eq (lines : List Line) :
    readLines lines = (nodeOfLines lines).mapError .badBlock := by
  cases lines with
  | nil => rfl
  | cons first others =>
      have hahead : (ofLines (first :: others)).ahead = (first :: others).length := rfl
      have hread := readNode_matches (fuelFor (first :: others)) first.indent
        (ofLines (first :: others)) (Nat.succ_pos _) (by rw [hahead, fuelFor]; omega)
      rw [rest_ofLines] at hread
      rw [readLines, nodeOfLines]
      obtain ⟨_, hleft, hright⟩ | ⟨node, after, hleft, hright⟩ := hread.cases <;>
        rw [hleft, hright]
      · rfl
      · dsimp only
        split
        · rename_i hin
          rw [after.rest_of_lt hin]
          rfl
        · rename_i hend
          rw [rest_of_not_lt hend]
          rfl

end Cursor

end NoteVault.Rules
