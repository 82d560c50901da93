import NoteVault.Proofs.Rules.Ahead

namespace NoteVault.Rules

-- An entry or an item of a node: the way to it from the root, and the key of an entry.
structure Part where
  way : List Nat
  key? : Option String
deriving DecidableEq, Repr

namespace Node

mutual

-- The parts of a node that stands at the end of the way, each before what it holds. Repeated
-- keys are parts of their own.
def parts (way : List Nat) : Node → List Part
  | .scalar _ => []
  | .map entries => entryParts way 0 entries
  | .list items => itemParts way 0 items

def entryParts (way : List Nat) (index : Nat) : List (String × Node) → List Part
  | [] => []
  | (key, node) :: entries =>
    ⟨way ++ [index], some key⟩ ::
      (parts (way ++ [index]) node ++ entryParts way (index + 1) entries)

def itemParts (way : List Nat) (index : Nat) : List Node → List Part
  | [] => []
  | node :: items =>
    ⟨way ++ [index], none⟩ :: (parts (way ++ [index]) node ++ itemParts way (index + 1) items)

end

end Node

namespace Node

variable {part : Part} {way : List Nat} {index : Nat}

-- The way to a part goes on from the way of the node.
mutual

theorem exists_of_mem_parts {way : List Nat} : (node : Node) → part ∈ node.parts way →
    ∃ index tail, part.way = way ++ index :: tail
  | .map entries, h => by
      obtain ⟨index, tail, -, hway⟩ := exists_of_mem_entryParts entries h
      exact ⟨index, tail, hway⟩
  | .list items, h => by
      obtain ⟨index, tail, -, hway⟩ := exists_of_mem_itemParts items h
      exact ⟨index, tail, hway⟩

theorem exists_of_mem_entryParts {way : List Nat} {index : Nat} :
    (entries : List (String × Node)) → part ∈ entryParts way index entries →
      ∃ other tail, index ≤ other ∧ part.way = way ++ other :: tail
  | (key, node) :: entries, h => by
      rw [entryParts, List.mem_cons, List.mem_append] at h
      obtain rfl | h | h := h
      · exact ⟨index, [], Nat.le_refl _, rfl⟩
      · obtain ⟨other, tail, hway⟩ := exists_of_mem_parts node h
        exact ⟨index, other :: tail, Nat.le_refl _, by rw [hway, List.append_assoc]; rfl⟩
      · obtain ⟨other, tail, hle, hway⟩ := exists_of_mem_entryParts entries h
        exact ⟨other, tail, Nat.le_of_succ_le hle, hway⟩

theorem exists_of_mem_itemParts {way : List Nat} {index : Nat} :
    (items : List Node) → part ∈ itemParts way index items →
      ∃ other tail, index ≤ other ∧ part.way = way ++ other :: tail
  | node :: items, h => by
      rw [itemParts, List.mem_cons, List.mem_append] at h
      obtain rfl | h | h := h
      · exact ⟨index, [], Nat.le_refl _, rfl⟩
      · obtain ⟨other, tail, hway⟩ := exists_of_mem_parts node h
        exact ⟨index, other :: tail, Nat.le_refl _, by rw [hway, List.append_assoc]; rfl⟩
      · obtain ⟨other, tail, hle, hway⟩ := exists_of_mem_itemParts items h
        exact ⟨other, tail, Nat.le_of_succ_le hle, hway⟩

end

-- A part, what it holds and the parts beside it have different ways.
theorem nodup_cons_append {held more : List Part} (hpart : part.way = way ++ [index])
    (hheld : ∀ other ∈ held, ∃ next tail, other.way = way ++ [index] ++ next :: tail)
    (hmore : ∀ other ∈ more, ∃ next tail, index < next ∧ other.way = way ++ next :: tail)
    (hheldNodup : held.Nodup) (hmoreNodup : more.Nodup) : (part :: (held ++ more)).Nodup := by
  rw [List.nodup_cons, List.nodup_append, List.mem_append]
  refine ⟨?_, hheldNodup, hmoreNodup, ?_⟩
  · rintro (h | h)
    · obtain ⟨next, tail, hway⟩ := hheld part h
      simp [hpart] at hway
    · obtain ⟨next, tail, hlt, hway⟩ := hmore part h
      simp only [hpart, List.append_cancel_left_eq, List.cons.injEq] at hway
      exact absurd hway.1 (Nat.ne_of_lt hlt)
  · rintro part h other hother rfl
    obtain ⟨next, tail, hway⟩ := hheld part h
    obtain ⟨later, rest, hlt, hway'⟩ := hmore part hother
    simp only [hway, List.append_assoc, List.append_cancel_left_eq, List.singleton_append,
      List.cons.injEq] at hway'
    exact absurd hway'.1 (Nat.ne_of_lt hlt)

mutual

theorem nodup_parts (way : List Nat) : (node : Node) → (node.parts way).Nodup
  | .scalar _ => List.nodup_nil
  | .map entries => nodup_entryParts way 0 entries
  | .list items => nodup_itemParts way 0 items

theorem nodup_entryParts (way : List Nat) (index : Nat) :
    (entries : List (String × Node)) → (entryParts way index entries).Nodup
  | [] => List.nodup_nil
  | (_, node) :: entries =>
      nodup_cons_append rfl (fun _ => exists_of_mem_parts node)
        (fun _ => exists_of_mem_entryParts entries) (nodup_parts (way ++ [index]) node)
        (nodup_entryParts way (index + 1) entries)

theorem nodup_itemParts (way : List Nat) (index : Nat) :
    (items : List Node) → (itemParts way index items).Nodup
  | [] => List.nodup_nil
  | node :: items =>
      nodup_cons_append rfl (fun _ => exists_of_mem_parts node)
        (fun _ => exists_of_mem_itemParts items) (nodup_parts (way ++ [index]) node)
        (nodup_itemParts way (index + 1) items)

end

end Node

-- The parts that lines give, line by line. A line gives one entry or one item, and an item with
-- an entry behind its hyphen comes with that entry, the first of its map.
inductive Gives : List Line → List Part → Prop
  | nil : Gives [] []
  | entry {line : Line} {chars value : List Char} {lines : List Line} {parts : List Part}
    (way : List Nat) (hitem : line.isItem = false)
    (hsplit : splitAtColon? line.text = some (chars, value)) (h : Gives lines parts) :
    Gives (line :: lines) (⟨way, some (String.ofList chars)⟩ :: parts)
  | item {line : Line} {lines : List Line} {parts : List Part} (way : List Nat)
    (hitem : line.isItem = true) (hsplit : splitAtColon? line.itemText = none)
    (h : Gives lines parts) : Gives (line :: lines) (⟨way, none⟩ :: parts)
  | itemWithEntry {line : Line} {chars value : List Char} {lines : List Line} {parts : List Part}
    (way : List Nat) (hitem : line.isItem = true)
    (hsplit : splitAtColon? line.itemText = some (chars, value)) (h : Gives lines parts) :
    Gives (line :: lines) (⟨way, none⟩ :: ⟨way ++ [0], some (String.ofList chars)⟩ :: parts)

open Node

section

variable {line : Line} {lines others : List Line} {parts more : List Part} {way : List Nat}

theorem Gives.append (h : Gives lines parts) (hmore : Gives others more) :
    Gives (lines ++ others) (parts ++ more) := by
  induction h with
  | nil => exact hmore
  | entry way hitem hsplit _ ih => exact .entry way hitem hsplit ih
  | item way hitem hsplit _ ih => exact .item way hitem hsplit ih
  | itemWithEntry way hitem hsplit _ ih => exact .itemWithEntry way hitem hsplit ih

-- The hyphen of the first line makes the map of the lines an item.
theorem Gives.withHyphen {entries : List (String × Node)} (hitem : line.isItem = true)
    (hentry : (splitAtColon? line.itemText).isSome)
    (h : Gives (line.withoutHyphen :: lines) (entryParts way 0 entries)) :
    Gives (line :: lines) (⟨way, none⟩ :: entryParts way 0 entries) := by
  have hplain : line.withoutHyphen.isItem = false := Line.isItem_eq_false hentry
  cases entries with
  | nil => cases h
  | cons entry entries =>
      obtain ⟨key, node⟩ := entry
      rw [entryParts] at h ⊢
      cases h with
      | entry _ _ hsplit h => exact .itemWithEntry way hitem hsplit h

end

namespace Cursor

variable {count : Nat} {parts more : List Part}

-- The lines from one cursor to another give the parts.
def Gives (cursor after : Cursor count) (parts : List Part) : Prop :=
  ∃ lines, cursor.rest = lines ++ after.rest ∧ Rules.Gives lines parts

theorem Gives.refl (cursor : Cursor count) : cursor.Gives cursor [] :=
  ⟨[], rfl, .nil⟩

theorem Gives.trans {cursor after last : Cursor count} (h : cursor.Gives after parts)
    (hmore : after.Gives last more) : cursor.Gives last (parts ++ more) := by
  obtain ⟨lines, hrest, hlines⟩ := h
  obtain ⟨others, hafter, hothers⟩ := hmore
  exact ⟨lines ++ others, by rw [hrest, hafter, List.append_assoc], hlines.append hothers⟩

-- By recursion as the reader itself: what a turn gives, followed by what the rest of its loop
-- gives.
mutual

theorem gives_readNode (cursor : Cursor count) {after : Cursor count} {indent : Nat} {node : Node}
    (way : List Nat) (h : cursor.readNode indent = .ok (node, after)) :
    cursor.Gives after (node.parts way) := by
  obtain ⟨items, rfl, hlist⟩ | ⟨entries, rfl, hmap⟩ := readNode_eq_ok h
  · exact gives_readList cursor way 0 hlist
  · exact gives_readMap cursor way 0 hmap
termination_by (cursor.ahead, 4)

theorem gives_child (cursor : Cursor count) {after : Cursor count} {child : Node} (way : List Nat)
    (h : (child = .scalar .null ∧ after = cursor) ∨
      ∃ deeper, cursor.readNode deeper = .ok (child, after)) :
    cursor.Gives after (child.parts way) := by
  obtain ⟨rfl, rfl⟩ | ⟨deeper, hnode⟩ := h
  · exact .refl after
  · exact gives_readNode cursor way hnode
termination_by (cursor.ahead, 5)

theorem gives_mapTurn (cursor : Cursor count) {after : Cursor count} {indent : Nat}
    {key : String} {child : Node} (way : List Nat)
    (h : cursor.mapTurn indent = .ok (some ((key, child), after))) :
    cursor.Gives after (⟨way, some key⟩ :: child.parts way) := by
  obtain ⟨hin, chars, value, hsplit, rfl, hitem, hheld⟩ := mapTurn_eq_some h
  have hline : cursor.Gives (cursor.next hin) [⟨way, some (String.ofList chars)⟩] :=
    ⟨[cursor.line hin], cursor.rest_of_lt hin, .entry way hitem hsplit .nil⟩
  obtain hchild | ⟨rfl, rfl⟩ := readHeld_eq_ok hheld
  · exact hline.trans (gives_child (cursor.next hin) way (readChild_eq_ok hchild))
  · exact hline
termination_by (cursor.ahead, 0)
decreasing_by exact Prod.Lex.left _ _ (cursor.ahead_next_lt hin)

theorem gives_readMap (cursor : Cursor count) {after : Cursor count} {indent : Nat}
    {entries : List (String × Node)} (way : List Nat) (index : Nat)
    (h : cursor.readMap indent = .ok (entries, after)) :
    cursor.Gives after (entryParts way index entries) := by
  obtain ⟨-, rfl, rfl⟩ | ⟨⟨key, child⟩, others, middle, hturn, hmoved, hmap, rfl⟩ :=
    readMap_eq_ok h
  · exact .refl after
  · have hothers := gives_readMap middle way (index + 1) hmap
    exact (gives_mapTurn cursor (way ++ [index]) hturn).trans hothers
termination_by (cursor.ahead, 1)
decreasing_by
  · exact Prod.Lex.left _ _ (ahead_lt_of_position_lt hmoved)
  · exact Prod.Lex.right _ (by decide)

theorem gives_listTurn (cursor : Cursor count) {after : Cursor count} {indent : Nat} {item : Node}
    (way : List Nat) (h : cursor.listTurn indent = .ok (some (item, after))) :
    cursor.Gives after (⟨way, none⟩ :: item.parts way) := by
  obtain ⟨hin, hitem, hread⟩ := listTurn_eq_some h
  obtain ⟨hscalar, hchild⟩ | ⟨hentry, entries, rfl, hmap⟩ := readItem_eq_ok hread
  · have hline : cursor.Gives (cursor.next hin) [⟨way, none⟩] :=
      ⟨[cursor.line hin], cursor.rest_of_lt hin, .item way hitem hscalar .nil⟩
    obtain hchild | ⟨rfl, rfl⟩ := hchild
    · exact hline.trans (gives_child (cursor.next hin) way (readItemChild_eq_ok hchild))
    · exact hline
  · have hmoved := position_lt_of_overwrite cursor hin hentry hmap
    obtain ⟨lines, hrest, hlines⟩ := gives_readMap (cursor.overwrite hin _) way 0 hmap
    cases lines with
    | nil =>
        have hlength := congrArg List.length hrest
        rw [List.nil_append, length_rest, length_rest] at hlength
        exact absurd hlength (Nat.ne_of_gt (ahead_lt_of_position_lt hmoved))
    | cons first lines =>
        rw [rest_overwrite, List.cons_append, List.cons.injEq] at hrest
        obtain ⟨rfl, hrest⟩ := hrest
        exact ⟨cursor.line hin :: lines, by rw [cursor.rest_of_lt hin, hrest, List.cons_append],
          hlines.withHyphen hitem hentry⟩
termination_by (cursor.ahead, 2)
decreasing_by
  · exact Prod.Lex.left _ _ (cursor.ahead_next_lt hin)
  · exact Prod.Lex.right _ (by decide)

theorem gives_readList (cursor : Cursor count) {after : Cursor count} {indent : Nat}
    {items : List Node} (way : List Nat) (index : Nat)
    (h : cursor.readList indent = .ok (items, after)) :
    cursor.Gives after (itemParts way index items) := by
  obtain ⟨-, rfl, rfl⟩ | ⟨item, others, middle, hturn, hmoved, hlist, rfl⟩ :=
    readList_eq_ok h
  · exact .refl after
  · have hothers := gives_readList middle way (index + 1) hlist
    exact (gives_listTurn cursor (way ++ [index]) hturn).trans hothers
termination_by (cursor.ahead, 3)
decreasing_by
  · exact Prod.Lex.left _ _ (ahead_lt_of_position_lt hmoved)
  · exact Prod.Lex.right _ (by decide)

end

theorem gives_readLines {lines : List Line} {node : Node} (h : readLines lines = .ok node) :
    Rules.Gives lines (node.parts []) := by
  cases lines with
  | nil =>
      cases h
      exact .nil
  | cons first others =>
      rw [readLines] at h
      split at h
      · cases h
      rename_i after hread
      split at h
      · cases h
      rename_i hend
      cases h
      obtain ⟨taken, hrest, htaken⟩ := gives_readNode (ofLines (first :: others)) [] hread
      rw [rest_ofLines, rest_of_not_lt hend, List.append_nil] at hrest
      rwa [hrest]

end Cursor

-- A block is read within its lines, and each turn of the loops stops, fails or moves on, so that
-- the reading ends. What a block means is told by its lines, each for one part or for an item
-- with its first entry, and no part is left over.
theorem readBlock_lineByLine (text : String) :
    (∀ cursor : Cursor (linesOf text).length, cursor.Advances) ∧
      Cursor.readLines (linesOf text) = (nodeOfText text).mapError .badBlock ∧
      ∀ value, readBlock text = .ok value →
        ∃ node, nodeOfText text = .ok node ∧ node.toJson = value ∧
          Gives (linesOf text) (node.parts []) ∧ (node.parts []).Nodup := by
  have hread : Cursor.readLines (linesOf text) = (nodeOfText text).mapError .badBlock :=
    Cursor.readLines_eq (linesOf text)
  refine ⟨Cursor.advances, hread, fun value hvalue => ?_⟩
  rw [readBlock] at hvalue
  cases hnode : nodeOfText text with
  | error fault =>
      rw [hnode] at hvalue
      cases hvalue
  | ok node =>
      rw [hnode] at hvalue hread
      exact ⟨node, rfl, Except.ok.inj hvalue, Cursor.gives_readLines hread, node.nodup_parts []⟩

-- A key said twice, a comment, an item with two entries and an item with a value.
theorem readBlock_lineByLine_fields :
    let text := "fields: 1\n# all\nfields:\n  - name: a\n    type: b\n  - c\n"
    let value : Json.Value := .object [("fields", .array
      [.object [("name", .string "a"), ("type", .string "b")], .string "c"])]
    readBlock text = .ok value ∧ (linesOf text).length = 5 ∧
      ∃ node, nodeOfText text = .ok node ∧ node.toJson = value ∧
        Gives (linesOf text) (node.parts []) ∧ (node.parts []).Nodup := by
  intro text value
  have hread : readBlock text = .ok value := by decide +kernel
  exact ⟨hread, by decide +kernel, (readBlock_lineByLine text).2.2 value hread⟩

end NoteVault.Rules
