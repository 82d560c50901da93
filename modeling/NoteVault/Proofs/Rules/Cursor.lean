import NoteVault.Proofs.Rules.Shift

namespace NoteVault.Rules

-- A place in a buffer of lines, at a line or behind the last one.
structure Cursor (count : Nat) where
  lines : Vector Line count
  position : Nat
  position_le : position ≤ count

-- Why a reading over a buffer gives nothing. The last two are defects of the reader: a look
-- at a line or a character that is not there, and a turn of a loop that does not move on.
inductive Halt where
  | badBlock (fault : DocumentFault)
  | outside
  | stalled
deriving Repr

-- A hyphen can be cut off by its length of one byte.
def Line.startsWithByte (line : Line) : Bool :=
  line.text.head?.any fun char => char.utf8Size == 1

-- What is an entry is no item, so that the rest of an item is not taken for an item again.
theorem Line.isItem_eq_false {line : Line} (h : (splitAtColon? line.text).isSome) :
    line.isItem = false := by
  rw [← Bool.not_eq_true]
  intro hitem
  obtain ⟨number, indent, text⟩ := line
  rw [isItem, Bool.or_eq_true, beq_iff_eq, List.isPrefixOf_iff_prefix] at hitem
  obtain rfl | ⟨rest, rfl⟩ := hitem
  · cases h
  · -- The blank behind the hyphen would have to be a character of the key.
    have hblank : isKeyChar ' ' = false := by decide
    cases hrest : Text.splitAtFirst ':' rest <;>
      simp [splitAtColon?, Text.splitAtFirst, hrest, hblank] at h

-- The hyphen of an item is one byte.
theorem Line.startsWithByte_of_isItem {line : Line} (h : line.isItem = true) :
    line.startsWithByte = true := by
  obtain ⟨number, indent, text⟩ := line
  rw [isItem, Bool.or_eq_true, beq_iff_eq, List.isPrefixOf_iff_prefix] at h
  obtain rfl | ⟨rest, rfl⟩ := h <;> rfl

namespace Cursor

variable {count : Nat} {α : Type}

def ofLines (lines : List Line) : Cursor lines.length :=
  ⟨⟨lines.toArray, List.size_toArray⟩, 0, Nat.zero_le _⟩

section

variable (cursor : Cursor count) (hin : cursor.position < count)

def line : Line :=
  cursor.lines[cursor.position]

def next : Cursor count :=
  ⟨cursor.lines, cursor.position + 1, hin⟩

-- The line at the cursor is written over, and the cursor stays.
def overwrite (line : Line) : Cursor count :=
  ⟨cursor.lines.set cursor.position line hin, cursor.position, cursor.position_le⟩

end

-- The lines that are not read yet, and their number.
def rest (cursor : Cursor count) : List Line :=
  cursor.lines.toList.drop cursor.position

def ahead (cursor : Cursor count) : Nat :=
  count - cursor.position

theorem ahead_lt_of_position_lt {cursor after : Cursor count}
    (h : cursor.position < after.position) : after.ahead < cursor.ahead := by
  have := after.position_le
  simp only [ahead]
  omega

theorem ahead_next_lt (cursor : Cursor count) (hin : cursor.position < count) :
    (cursor.next hin).ahead < cursor.ahead :=
  ahead_lt_of_position_lt (Nat.lt_succ_self cursor.position)

-- A turn of a loop stops it, fails, or gives a part of the node and moves on.
def moving (cursor : Cursor count) : Except Halt (Option (α × Cursor count)) →
    Except Halt (Option (α × {after : Cursor count // cursor.position < after.position}))
  | .error halt => .error halt
  | .ok none => .ok none
  | .ok (some (part, after)) =>
    if hmoved : cursor.position < after.position then .ok (some (part, ⟨after, hmoved⟩))
    else .error .stalled

-- The reader of a block over a buffer. There is no bound on the calls: what ends the recursion
-- is that fewer lines are ahead, and at one line that a list hands it to a map only.
mutual

def readNode (cursor : Cursor count) (indent : Nat) : Except Halt (Node × Cursor count) :=
  if hin : cursor.position < count then
    if (cursor.line hin).isItem then
      match readList cursor indent with
      | .error halt => .error halt
      | .ok (items, after) => .ok (.list items, after)
    else
      match readMap cursor indent with
      | .error halt => .error halt
      | .ok (entries, after) => .ok (.map entries, after)
  else .error .outside
termination_by (cursor.ahead, 4)

def readChild (cursor : Cursor count) (indent : Nat) : Except Halt (Node × Cursor count) :=
  if hin : cursor.position < count then
    let line := cursor.line hin
    if indent < line.indent ∨ (line.indent = indent ∧ line.isItem) then
      readNode cursor line.indent
    else .ok (.scalar .null, cursor)
  else .ok (.scalar .null, cursor)
termination_by (cursor.ahead, 5)

def readItemChild (cursor : Cursor count) (indent : Nat) : Except Halt (Node × Cursor count) :=
  if hin : cursor.position < count then
    let line := cursor.line hin
    if indent < line.indent then readNode cursor line.indent
    else .ok (.scalar .null, cursor)
  else .ok (.scalar .null, cursor)
termination_by (cursor.ahead, 5)

-- One turn of the loop over the entries of a map.
def mapTurn (cursor : Cursor count) (indent : Nat) :
    Except Halt (Option ((String × Node) × Cursor count)) :=
  if hin : cursor.position < count then
    let line := cursor.line hin
    if line.indent < indent then .ok none
    else if indent < line.indent then .error (.badBlock (line.fault .indentation))
    else if line.isItem then .error (.badBlock (line.fault .unexpectedItem))
    else
      match splitAtColon? line.text with
      | none => .error (.badBlock (line.fault .notAnEntry))
      | some (key, value) =>
        match if value.isEmpty then readChild (cursor.next hin) indent
          else .ok (.scalar (readScalar value), cursor.next hin) with
        | .error halt => .error halt
        | .ok (child, after) => .ok (some ((String.ofList key, child), after))
  else .ok none
termination_by (cursor.ahead, 0)
decreasing_by exact Prod.Lex.left _ _ (cursor.ahead_next_lt hin)

def readMap (cursor : Cursor count) (indent : Nat) :
    Except Halt (List (String × Node) × Cursor count) :=
  match cursor.moving (mapTurn cursor indent) with
  | .error halt => .error halt
  | .ok none => .ok ([], cursor)
  | .ok (some (entry, ⟨after, _⟩)) =>
    match readMap after indent with
    | .error halt => .error halt
    | .ok (entries, last) => .ok (entry :: entries, last)
termination_by (cursor.ahead, 1)
decreasing_by
  · exact Prod.Lex.right _ (by decide)
  · exact Prod.Lex.left _ _ (ahead_lt_of_position_lt ‹_›)

-- One turn of the loop over the items of a list. An item that is itself an entry is written
-- over by its rest, and read again as the first line of a map.
def listTurn (cursor : Cursor count) (indent : Nat) :
    Except Halt (Option (Node × Cursor count)) :=
  if hin : cursor.position < count then
    let line := cursor.line hin
    if line.indent < indent ∨ !line.isItem then .ok none
    else if indent < line.indent then .error (.badBlock (line.fault .indentation))
    else if !line.startsWithByte then .error .outside
    else
      match if line.itemText.isEmpty then readItemChild (cursor.next hin) indent
        else if (splitAtColon? line.itemText).isSome then
          match readMap (cursor.overwrite hin line.withoutHyphen) line.withoutHyphen.indent with
          | .error halt => .error halt
          | .ok (entries, after) => .ok (.map entries, after)
        else .ok (.scalar (readScalar line.itemText), cursor.next hin) with
      | .error halt => .error halt
      | .ok (item, after) => .ok (some (item, after))
  else .ok none
termination_by (cursor.ahead, 2)
decreasing_by
  · exact Prod.Lex.left _ _ (cursor.ahead_next_lt hin)
  · exact Prod.Lex.right _ (by decide)

def readList (cursor : Cursor count) (indent : Nat) : Except Halt (List Node × Cursor count) :=
  match cursor.moving (listTurn cursor indent) with
  | .error halt => .error halt
  | .ok none => .ok ([], cursor)
  | .ok (some (item, ⟨after, _⟩)) =>
    match readList after indent with
    | .error halt => .error halt
    | .ok (items, last) => .ok (item :: items, last)
termination_by (cursor.ahead, 3)
decreasing_by
  · exact Prod.Lex.right _ (by decide)
  · exact Prod.Lex.left _ _ (ahead_lt_of_position_lt ‹_›)

end

-- What an entry holds.
def readHeld (cursor : Cursor count) (indent : Nat) (value : List Char) :
    Except Halt (Node × Cursor count) :=
  if value.isEmpty then readChild cursor indent
  else .ok (.scalar (readScalar value), cursor)

-- One item, at its line.
def readItem (cursor : Cursor count) (hin : cursor.position < count) (indent : Nat) :
    Except Halt (Node × Cursor count) :=
  let line := cursor.line hin
  if line.itemText.isEmpty then readItemChild (cursor.next hin) indent
  else if (splitAtColon? line.itemText).isSome then
    match readMap (cursor.overwrite hin line.withoutHyphen) line.withoutHyphen.indent with
    | .error halt => .error halt
    | .ok (entries, after) => .ok (.map entries, after)
  else .ok (.scalar (readScalar line.itemText), cursor.next hin)

variable {cursor after : Cursor count} {indent : Nat}

theorem mapTurn_of_lt (cursor : Cursor count) (indent : Nat) (hin : cursor.position < count) :
    cursor.mapTurn indent =
      if (cursor.line hin).indent < indent then .ok none
      else if indent < (cursor.line hin).indent then
        .error (.badBlock ((cursor.line hin).fault .indentation))
      else if (cursor.line hin).isItem then
        .error (.badBlock ((cursor.line hin).fault .unexpectedItem))
      else
        match splitAtColon? (cursor.line hin).text with
        | none => .error (.badBlock ((cursor.line hin).fault .notAnEntry))
        | some (key, value) =>
          match (cursor.next hin).readHeld indent value with
          | .error halt => .error halt
          | .ok (child, after) => .ok (some ((String.ofList key, child), after)) := by
  rw [mapTurn, dif_pos hin]
  rfl

theorem listTurn_of_lt (cursor : Cursor count) (indent : Nat) (hin : cursor.position < count) :
    cursor.listTurn indent =
      if (cursor.line hin).indent < indent ∨ !(cursor.line hin).isItem then .ok none
      else if indent < (cursor.line hin).indent then
        .error (.badBlock ((cursor.line hin).fault .indentation))
      else if !(cursor.line hin).startsWithByte then .error .outside
      else
        match cursor.readItem hin indent with
        | .error halt => .error halt
        | .ok (item, after) => .ok (some (item, after)) := by
  rw [listTurn, dif_pos hin]
  rfl

theorem length_rest (cursor : Cursor count) : cursor.rest.length = cursor.ahead := by
  rw [rest, List.length_drop, Vector.length_toList, ahead]

theorem rest_of_lt (cursor : Cursor count) (hin : cursor.position < count) :
    cursor.rest = cursor.line hin :: (cursor.next hin).rest := by
  have hlength : cursor.position < cursor.lines.toList.length := by
    rwa [Vector.length_toList]
  rw [rest, List.drop_eq_getElem_cons hlength, Vector.getElem_toList]
  rfl

theorem rest_of_not_lt (hout : ¬cursor.position < count) : cursor.rest = [] := by
  rw [rest, List.drop_eq_nil_iff, Vector.length_toList]
  exact Nat.le_of_not_lt hout

theorem overwrite_lt (cursor : Cursor count) (hin : cursor.position < count) (line : Line) :
    (cursor.overwrite hin line).position < count :=
  hin

theorem line_overwrite (cursor : Cursor count) (hin : cursor.position < count) (line : Line) :
    (cursor.overwrite hin line).line (cursor.overwrite_lt hin line) = line := by
  simp only [overwrite, Cursor.line, Vector.getElem_set_self]

theorem rest_overwrite (hin : cursor.position < count) (line : Line) :
    (cursor.overwrite hin line).rest = line :: (cursor.next hin).rest := by
  rw [rest_of_lt (cursor.overwrite hin line) (cursor.overwrite_lt hin line), line_overwrite]
  simp only [overwrite, next, rest, Vector.toList_set,
    List.drop_set_of_lt (Nat.lt_succ_self cursor.position)]

theorem rest_ofLines (lines : List Line) : (ofLines lines).rest = lines := by
  simp [ofLines, rest]

theorem moving_of_lt (part : α) (hmoved : cursor.position < after.position) :
    cursor.moving (.ok (some (part, after))) = .ok (some (part, ⟨after, hmoved⟩)) :=
  dif_pos hmoved

theorem moving_eq_some {turn : Except Halt (Option (α × Cursor count))} {part : α}
    {hmoved : cursor.position < after.position}
    (h : cursor.moving turn = .ok (some (part, ⟨after, hmoved⟩))) :
    turn = .ok (some (part, after)) := by
  match turn with
  | .ok (some (other, middle)) =>
      rw [moving] at h
      split at h
      · cases h
        rfl
      · cases h

theorem moving_eq_none {turn : Except Halt (Option (α × Cursor count))}
    (h : cursor.moving turn = .ok none) : turn = .ok none := by
  match turn with
  | .ok none => rfl
  | .ok (some (other, middle)) =>
      rw [moving] at h
      split at h <;> cases h

-- What each call has come to when it gives a result.
section

theorem readNode_eq_ok {node : Node} (h : cursor.readNode indent = .ok (node, after)) :
    (∃ items, node = .list items ∧ cursor.readList indent = .ok (items, after)) ∨
      ∃ entries, node = .map entries ∧ cursor.readMap indent = .ok (entries, after) := by
  rw [readNode] at h
  split at h
  · split at h
    · split at h
      · cases h
      · rename_i hlist
        cases h
        exact .inl ⟨_, rfl, hlist⟩
    · split at h
      · cases h
      · rename_i hmap
        cases h
        exact .inr ⟨_, rfl, hmap⟩
  · cases h

theorem readChild_eq_ok {child : Node} (h : cursor.readChild indent = .ok (child, after)) :
    (child = .scalar .null ∧ after = cursor) ∨
      ∃ deeper, cursor.readNode deeper = .ok (child, after) := by
  rw [readChild] at h
  split at h
  · dsimp only at h
    split at h
    · exact .inr ⟨_, h⟩
    · cases h
      exact .inl ⟨rfl, rfl⟩
  · cases h
    exact .inl ⟨rfl, rfl⟩

theorem readItemChild_eq_ok {child : Node} (h : cursor.readItemChild indent = .ok (child, after)) :
    (child = .scalar .null ∧ after = cursor) ∨
      ∃ deeper, cursor.readNode deeper = .ok (child, after) := by
  rw [readItemChild] at h
  split at h
  · dsimp only at h
    split at h
    · exact .inr ⟨_, h⟩
    · cases h
      exact .inl ⟨rfl, rfl⟩
  · cases h
    exact .inl ⟨rfl, rfl⟩

theorem readHeld_eq_ok {value : List Char} {child : Node}
    (h : cursor.readHeld indent value = .ok (child, after)) :
    cursor.readChild indent = .ok (child, after) ∨
      child = .scalar (readScalar value) ∧ after = cursor := by
  rw [readHeld] at h
  split at h
  · exact .inl h
  · cases h
    exact .inr ⟨rfl, rfl⟩

theorem readItem_eq_ok {hin : cursor.position < count} {item : Node}
    (h : cursor.readItem hin indent = .ok (item, after)) :
    splitAtColon? (cursor.line hin).itemText = none ∧
        ((cursor.next hin).readItemChild indent = .ok (item, after) ∨
          item = .scalar (readScalar (cursor.line hin).itemText) ∧ after = cursor.next hin) ∨
      (splitAtColon? (cursor.line hin).itemText).isSome ∧
        ∃ entries, item = .map entries ∧
          (cursor.overwrite hin (cursor.line hin).withoutHyphen).readMap
            (cursor.line hin).withoutHyphen.indent = .ok (entries, after) := by
  rw [readItem] at h
  split at h
  · rename_i hempty
    rw [List.isEmpty_iff.mp hempty]
    exact .inl ⟨rfl, .inl h⟩
  split at h
  · rename_i hentry
    split at h
    · cases h
    · rename_i hmap
      cases h
      exact .inr ⟨hentry, _, rfl, hmap⟩
  · rename_i hscalar
    cases h
    exact .inl ⟨Option.not_isSome_iff_eq_none.mp hscalar, .inr ⟨rfl, rfl⟩⟩

-- The line of an entry, and where its value is read.
theorem mapTurn_eq_some {key : String} {child : Node}
    (h : cursor.mapTurn indent = .ok (some ((key, child), after))) :
    ∃ (hin : cursor.position < count) (chars value : List Char),
      splitAtColon? (cursor.line hin).text = some (chars, value) ∧ key = String.ofList chars ∧
      (cursor.line hin).isItem = false ∧
      (cursor.next hin).readHeld indent value = .ok (child, after) := by
  by_cases hin : cursor.position < count
  · rw [mapTurn_of_lt cursor indent hin] at h
    split at h
    · cases h
    split at h
    · cases h
    split at h
    · cases h
    rename_i hitem
    split at h
    · cases h
    rename_i chars value hsplit
    split at h
    · cases h
    rename_i hheld
    cases h
    exact ⟨hin, chars, value, hsplit, rfl, eq_false_of_ne_true hitem, hheld⟩
  · rw [mapTurn, dif_neg hin] at h
    cases h

-- An entry at the depth of a map is taken by it: what comes next is read behind its line.
theorem mapTurn_of_entry (cursor : Cursor count) (hin : cursor.position < count)
    {key value : List Char} (h : splitAtColon? (cursor.line hin).text = some (key, value)) :
    cursor.mapTurn (cursor.line hin).indent =
      ((cursor.next hin).readHeld (cursor.line hin).indent value).map
        fun (child, after) => some ((String.ofList key, child), after) := by
  have hitem : (cursor.line hin).isItem = false :=
    Line.isItem_eq_false (Option.isSome_of_eq_some h)
  rw [cursor.mapTurn_of_lt _ hin, if_neg (Nat.lt_irrefl _), if_neg (Nat.lt_irrefl _), hitem,
    if_neg Bool.false_ne_true, h]
  dsimp only
  cases (cursor.next hin).readHeld (cursor.line hin).indent value <;> rfl

-- The line of an item, and where its node is read.
theorem listTurn_eq_some {item : Node} (h : cursor.listTurn indent = .ok (some (item, after))) :
    ∃ hin : cursor.position < count, (cursor.line hin).isItem = true ∧
      cursor.readItem hin indent = .ok (item, after) := by
  by_cases hin : cursor.position < count
  · rw [listTurn_of_lt cursor indent hin] at h
    split at h
    · cases h
    rename_i hitem
    split at h
    · cases h
    split at h
    · cases h
    split at h
    · cases h
    rename_i hread
    cases h
    exact ⟨hin, by simpa using fun hnot => hitem (.inr hnot), hread⟩
  · rw [listTurn, dif_neg hin] at h
    cases h

theorem readMap_eq_ok {entries : List (String × Node)}
    (h : cursor.readMap indent = .ok (entries, after)) :
    (cursor.mapTurn indent = .ok none ∧ entries = [] ∧ after = cursor) ∨
      ∃ entry others middle, cursor.mapTurn indent = .ok (some (entry, middle)) ∧
        cursor.position < middle.position ∧ middle.readMap indent = .ok (others, after) ∧
        entries = entry :: others := by
  rw [readMap] at h
  split at h
  · cases h
  · rename_i hstop
    cases h
    exact .inl ⟨moving_eq_none hstop, rfl, rfl⟩
  · rename_i hmoved hturn
    split at h
    · cases h
    · rename_i hmap
      cases h
      exact .inr ⟨_, _, _, moving_eq_some hturn, hmoved, hmap, rfl⟩

theorem readList_eq_ok {items : List Node} (h : cursor.readList indent = .ok (items, after)) :
    (cursor.listTurn indent = .ok none ∧ items = [] ∧ after = cursor) ∨
      ∃ item others middle, cursor.listTurn indent = .ok (some (item, middle)) ∧
        cursor.position < middle.position ∧ middle.readList indent = .ok (others, after) ∧
        items = item :: others := by
  rw [readList] at h
  split at h
  · cases h
  · rename_i hstop
    cases h
    exact .inl ⟨moving_eq_none hstop, rfl, rfl⟩
  · rename_i hmoved hturn
    split at h
    · cases h
    · rename_i hlist
      cases h
      exact .inr ⟨_, _, _, moving_eq_some hturn, hmoved, hlist, rfl⟩

end

-- A loop ends behind where its turns have come to.
theorem position_le_of_readMap (cursor : Cursor count) {entries : List (String × Node)}
    (h : cursor.readMap indent = .ok (entries, after)) : cursor.position ≤ after.position := by
  obtain ⟨-, -, rfl⟩ | ⟨entry, others, middle, -, hmoved, hmap, -⟩ := readMap_eq_ok h
  · exact Nat.le_refl _
  · have hahead := ahead_lt_of_position_lt hmoved
    exact Nat.le_trans (Nat.le_of_lt hmoved) (position_le_of_readMap middle hmap)
termination_by cursor.ahead

theorem position_le_of_readList (cursor : Cursor count) {items : List Node}
    (h : cursor.readList indent = .ok (items, after)) : cursor.position ≤ after.position := by
  obtain ⟨-, -, rfl⟩ | ⟨item, others, middle, -, hmoved, hlist, -⟩ := readList_eq_ok h
  · exact Nat.le_refl _
  · have hahead := ahead_lt_of_position_lt hmoved
    exact Nat.le_trans (Nat.le_of_lt hmoved) (position_le_of_readList middle hlist)
termination_by cursor.ahead

theorem position_le_of_readNode {node : Node} (h : cursor.readNode indent = .ok (node, after)) :
    cursor.position ≤ after.position := by
  obtain ⟨items, -, hlist⟩ | ⟨entries, -, hmap⟩ := readNode_eq_ok h
  · exact position_le_of_readList cursor hlist
  · exact position_le_of_readMap cursor hmap

theorem position_le_of_readHeld {value : List Char} {child : Node}
    (h : cursor.readHeld indent value = .ok (child, after)) : cursor.position ≤ after.position := by
  obtain hchild | ⟨-, rfl⟩ := readHeld_eq_ok h
  · obtain ⟨-, rfl⟩ | ⟨deeper, hnode⟩ := readChild_eq_ok hchild
    · exact Nat.le_refl _
    · exact position_le_of_readNode hnode
  · exact Nat.le_refl _

-- A map that starts with an entry leaves its line behind.
theorem position_lt_of_readMap (cursor : Cursor count) (hin : cursor.position < count)
    (hentry : (splitAtColon? (cursor.line hin).text).isSome)
    {entries : List (String × Node)}
    (h : cursor.readMap (cursor.line hin).indent = .ok (entries, after)) :
    cursor.position < after.position := by
  obtain ⟨hstop, -, -⟩ | ⟨entry, others, middle, -, hmoved, hmap, -⟩ := readMap_eq_ok h
  · obtain ⟨⟨key, value⟩, hsplit⟩ := Option.isSome_iff_exists.mp hentry
    rw [cursor.mapTurn_of_entry hin hsplit] at hstop
    cases hheld : (cursor.next hin).readHeld (cursor.line hin).indent value <;>
      rw [hheld] at hstop <;> cases hstop
  · exact Nat.lt_of_lt_of_le hmoved (position_le_of_readMap middle hmap)

-- The rest of an item, written over its line, is read.
theorem position_lt_of_overwrite (cursor : Cursor count) (hin : cursor.position < count)
    (hentry : (splitAtColon? (cursor.line hin).itemText).isSome) {entries : List (String × Node)}
    (h : (cursor.overwrite hin (cursor.line hin).withoutHyphen).readMap
      (cursor.line hin).withoutHyphen.indent = .ok (entries, after)) :
    cursor.position < after.position := by
  have hline := cursor.line_overwrite hin (cursor.line hin).withoutHyphen
  have hwritten := cursor.overwrite_lt hin (cursor.line hin).withoutHyphen
  have hmap : (cursor.overwrite hin (cursor.line hin).withoutHyphen).readMap
      ((cursor.overwrite hin (cursor.line hin).withoutHyphen).line hwritten).indent =
        .ok (entries, after) := by
    rw [hline]
    exact h
  exact position_lt_of_readMap (cursor.overwrite hin _) hwritten (hline.symm ▸ hentry) hmap

theorem position_lt_of_readItem {hin : cursor.position < count} {item : Node}
    (h : cursor.readItem hin indent = .ok (item, after)) : cursor.position < after.position := by
  obtain ⟨-, hchild | ⟨-, rfl⟩⟩ | ⟨hentry, entries, -, hmap⟩ := readItem_eq_ok h
  · obtain ⟨-, rfl⟩ | ⟨deeper, hnode⟩ := readItemChild_eq_ok hchild
    · exact Nat.lt_succ_self _
    · exact position_le_of_readNode hnode
  · exact Nat.lt_succ_self _
  · exact position_lt_of_overwrite cursor hin hentry hmap

-- Every turn of the two loops that gives a part moves on.
theorem position_lt_of_mapTurn {entry : String × Node}
    (h : cursor.mapTurn indent = .ok (some (entry, after))) : cursor.position < after.position := by
  obtain ⟨hin, _, _, -, -, -, hheld⟩ := mapTurn_eq_some h
  exact position_le_of_readHeld hheld

theorem position_lt_of_listTurn {item : Node}
    (h : cursor.listTurn indent = .ok (some (item, after))) : cursor.position < after.position := by
  obtain ⟨hin, -, hread⟩ := listTurn_eq_some h
  exact position_lt_of_readItem hread

-- What a turn does for the end of the reading. The third says that the rest of an item, written
-- over its line, is taken by the map that is read there.
structure Advances (cursor : Cursor count) : Prop where
  mapTurn : ∀ {indent entry after}, cursor.mapTurn indent = .ok (some (entry, after)) →
    cursor.position < after.position
  listTurn : ∀ {indent item after}, cursor.listTurn indent = .ok (some (item, after)) →
    cursor.position < after.position
  taken : ∀ (hin : cursor.position < count) {key value : List Char},
    splitAtColon? (cursor.line hin).itemText = some (key, value) →
      let plain := (cursor.line hin).withoutHyphen
      (cursor.overwrite hin plain).mapTurn plain.indent =
        (((cursor.overwrite hin plain).next hin).readHeld plain.indent value).map
          fun (child, after) => some ((String.ofList key, child), after)

theorem advances (cursor : Cursor count) : cursor.Advances where
  mapTurn := position_lt_of_mapTurn
  listTurn := position_lt_of_listTurn
  taken hin key value hsplit := by
    intro plain
    have hline : (cursor.overwrite hin plain).line hin = plain := cursor.line_overwrite hin plain
    have hturn := (cursor.overwrite hin plain).mapTurn_of_entry hin
      (show splitAtColon? ((cursor.overwrite hin plain).line hin).text = some (key, value) from
        hline.symm ▸ hsplit)
    rwa [hline] at hturn

end Cursor

end NoteVault.Rules
