import NoteVault.Proofs.Rules.Lines

namespace NoteVault.Rules

open Json Text

-- A key that cannot be taken for an item, a comment or a fence.
def IsKey (key : String) : Prop :=
  key.toList ≠ [] ∧ ∀ char ∈ key.toList, isKeyChar char = true ∧ isBlank char = false ∧ char ≠ '-'

instance (key : String) : Decidable (IsKey key) :=
  have := List.decidableBAll
    (fun char => isKeyChar char = true ∧ isBlank char = false ∧ char ≠ '-') key.toList
  inferInstanceAs (Decidable (key.toList ≠ [] ∧ _))

variable {key : String} {leaf : Leaf} {number fuel indent : Nat} {rows : List Row}
  {rest : List Line}

section

variable (h : IsKey key)
include h

theorem IsKey.ne_of_mem {char other : Char} (hc : char ∈ key.toList)
    (hother : isKeyChar other = false) : char ≠ other := by
  rintro rfl
  rw [(h.2 char hc).1] at hother
  cases hother

theorem IsKey.colon : ':' ∉ key.toList :=
  fun hc => h.ne_of_mem hc (by decide) rfl

theorem IsKey.isInline : IsInline key.toList :=
  isInline_of_forall h.1 fun _ hc =>
    ⟨(h.2 _ hc).2.1, h.ne_of_mem hc (by decide), h.ne_of_mem hc (by decide)⟩

-- The key is found before its colon, with what follows at the same line.
theorem IsKey.splitAtColon? {value : List Char} (hvalue : value = [] ∨ value.head? = some ' ') :
    splitAtColon? (key.toList ++ ':' :: value) = some (key.toList, trim value) := by
  have hall : key.toList.all isKeyChar = true := List.all_eq_true.mpr fun char hc => (h.2 char hc).1
  have hne : key.toList.isEmpty = false := List.isEmpty_eq_false_iff.mpr h.1
  have hend : (value.isEmpty || value.head? == some ' ') = true := by
    rcases hvalue with rfl | hvalue
    · rfl
    · rw [hvalue]
      simp
  simp only [Rules.splitAtColon?, splitAtFirst_append h.colon, hall, hne, hend, Bool.not_false,
    Bool.and_self, if_true]

theorem IsKey.head (tail : List Char) :
    ∃ first rest, key.toList ++ tail = first :: rest ∧ first ≠ '-' ∧ first ≠ '#' ∧ first ≠ '\x60' := by
  obtain ⟨first, others, hkey⟩ := List.exists_cons_of_ne_nil h.1
  have hmem : first ∈ key.toList := by rw [hkey]; exact List.mem_cons_self
  exact ⟨first, others ++ tail, by rw [hkey, List.cons_append], (h.2 first hmem).2.2,
    h.ne_of_mem hmem (by decide), h.ne_of_mem hmem (by decide)⟩

theorem IsKey.isItem (number indent : Nat) (tail : List Char) :
    (Line.mk number indent (key.toList ++ tail)).isItem = false := by
  obtain ⟨first, others, hchars, hfirst, -, -⟩ := h.head tail
  rw [Line.isItem, hchars, Bool.or_eq_false_iff]
  refine ⟨?_, ?_⟩
  · rw [beq_eq_false_iff_ne]
    exact fun heq => hfirst (List.cons.inj heq).1
  · rw [List.isPrefixOf_cons_cons, Bool.and_eq_false_iff]
    exact .inl (beq_eq_false_iff_ne.mpr (Ne.symm hfirst))

theorem isPlain_openRow (depth : Nat) : (openRow depth key).IsPlain := by
  have hcolon : IsInline [':'] := isInline_singleton (by decide) (by decide)
  refine ⟨?_, ?_⟩
  · have hline := h.isInline.append hcolon [] (fun _ hc => nomatch hc)
    rwa [List.append_nil] at hline
  · obtain ⟨first, others, hchars, -, hcomment, hfence⟩ := h.head [':']
    rw [openRow, hchars]
    intro char hc
    rw [← Option.some.inj hc]
    exact ⟨hcomment, hfence⟩

end

-- An entry whose value is read from its line.
structure Leaf.Reads (leaf : Leaf) : Prop where
  key : IsKey leaf.key
  inline : IsInline leaf.written.toList
  value : readScalar leaf.written.toList = leaf.value

def Leaf.entry (leaf : Leaf) : String × Node :=
  (leaf.key, .scalar leaf.value)

section

variable (h : leaf.Reads)
include h

theorem Leaf.Reads.isInline_text : IsInline leaf.text := by
  have hcolon : IsLine [':', ' '] := by decide
  have hline := h.key.isInline.append h.inline _ hcolon
  rwa [List.append_assoc] at hline

theorem Leaf.Reads.isPlain_row (depth : Nat) : (leaf.row depth).IsPlain := by
  refine ⟨h.isInline_text, ?_⟩
  obtain ⟨first, others, hchars, -, hcomment, hfence⟩ :=
    h.key.head (':' :: ' ' :: leaf.written.toList)
  rw [row, text, hchars]
  intro char hc
  rw [← Option.some.inj hc]
  exact ⟨hcomment, hfence⟩

theorem Leaf.Reads.splitAtColon? :
    Rules.splitAtColon? leaf.text = some (leaf.key.toList, leaf.written.toList) := by
  rw [text, h.key.splitAtColon? (.inr rfl), trim_cons_blank (by decide), h.inline.trim]

end

-- The lines after a part stand less deep than the bound.
def StaysBelow (bound : Nat) (rest : List Line) : Prop :=
  ∀ line ∈ rest.head?, line.indent < bound

theorem StaysBelow.mono {bound other : Nat} (h : StaysBelow bound rest) (hle : bound ≤ other) :
    StaysBelow other rest :=
  fun line hl => Nat.lt_of_lt_of_le (h line hl) hle

def Row.isItem (row : Row) : Bool :=
  (Line.mk 0 0 row.text).isItem

-- The first row stands at the indent and is an item or none.
def Opens (item : Bool) (indent : Nat) (rows : List Row) : Prop :=
  ∃ row others, rows = row :: others ∧ 2 * row.depth = indent ∧ row.isItem = item

-- Rows that a reader of parts at the indent takes as one part. A list needs one more
-- call than a map.
structure IsPart {α : Type} (read : Nat → List Line → Except DocumentFault (List α × List Line))
    (item : Bool) (indent : Nat) (rows : List Row) (part : α) : Prop where
  opens : Opens item indent rows
  reads : ∀ fuel number rest, 4 * rows.length + item.toNat ≤ fuel → StaysBelow (indent + 1) rest →
    read (fuel + 1) (numbered number rows ++ rest) =
      (read fuel rest).map fun (parts, rest) => (part :: parts, rest)

section

variable {α : Type} {read : Nat → List Line → Except DocumentFault (List α × List Line)}
  {item : Bool} {pieces : List (List Row × α)}

theorem Opens.staysBelow (h : Opens item indent rows) (number : Nat) (rest : List Line) :
    StaysBelow (indent + 1) (numbered number rows ++ rest) := by
  obtain ⟨row, others, rfl, hrow, -⟩ := h
  intro line hl
  rw [← Option.some.inj hl, ← hrow]
  exact Nat.lt_succ_self _

theorem opens_parts (hne : pieces ≠ []) (h : ∀ piece ∈ pieces, IsPart read item indent piece.1 piece.2) :
    Opens item indent (pieces.flatMap (·.1)) := by
  obtain ⟨piece, others, rfl⟩ := List.exists_cons_of_ne_nil hne
  obtain ⟨row, rows, hrows, hopens⟩ := (h piece List.mem_cons_self).opens
  exact ⟨row, _, by rw [List.flatMap_cons, hrows, List.cons_append], hopens⟩

-- Parts one after the other are all read.
theorem read_parts
    (hend : ∀ fuel rest, StaysBelow indent rest → read (fuel + 1) rest = .ok ([], rest))
    (h : ∀ piece ∈ pieces, IsPart read item indent piece.1 piece.2) (fuel number : Nat)
    (hfuel : 4 * (pieces.flatMap (·.1)).length + item.toNat + 1 ≤ fuel) (hrest : StaysBelow indent rest) :
    read fuel (numbered number (pieces.flatMap (·.1)) ++ rest) = .ok (pieces.map (·.2), rest) := by
  induction pieces generalizing fuel number with
  | nil =>
      obtain ⟨fuel, rfl⟩ : ∃ less, fuel = less + 1 := ⟨fuel - 1, by omega⟩
      exact hend fuel rest hrest
  | cons piece pieces ih =>
      obtain ⟨hpiece, hpieces⟩ := List.forall_mem_cons.mp h
      have hpos : 0 < piece.1.length := by
        obtain ⟨row, others, hrows, -⟩ := hpiece.opens
        rw [hrows]
        exact Nat.succ_pos _
      have hnext : StaysBelow (indent + 1)
          (numbered (number + piece.1.length) (pieces.flatMap (·.1)) ++ rest) := by
        by_cases hnil : pieces = []
        · rw [hnil]
          exact hrest.mono (Nat.le_succ indent)
        · exact (opens_parts hnil hpieces).staysBelow _ _
      rw [List.flatMap_cons, List.length_append] at hfuel
      obtain ⟨fuel, rfl⟩ : ∃ less, fuel = less + 1 := ⟨fuel - 1, by omega⟩
      rw [List.flatMap_cons, numbered_append, List.append_assoc,
        hpiece.reads fuel number _ (by omega) hnext, ih hpieces fuel _ (by omega)]
      rfl

end

theorem readMap_staysBelow (fuel : Nat) (rest : List Line) (h : StaysBelow indent rest) :
    readMap (fuel + 1) indent rest = .ok ([], rest) := by
  cases rest with
  | nil => rw [readMap]
  | cons line rest => rw [readMap, if_pos (h line rfl)]

theorem readList_staysBelow (fuel : Nat) (rest : List Line) (h : StaysBelow indent rest) :
    readList (fuel + 1) indent rest = .ok ([], rest) := by
  cases rest with
  | nil => rw [readList]
  | cons line rest => rw [readList, if_pos (.inl (h line rfl))]

-- Rows that are one entry of a map at the indent.
def IsEntry (indent : Nat) : List Row → String × Node → Prop :=
  IsPart (fun fuel => readMap fuel indent) false indent

-- Rows that are one item of a list at the indent.
def IsItem (indent : Nat) : List Row → Node → Prop :=
  IsPart (fun fuel => readList fuel indent) true indent

theorem readMap_line {value : List Char} (hkey : IsKey key)
    (hvalue : value = [] ∨ value.head? = some ' ') {child : Node} {after : List Line}
    (hchild : (if (trim value).isEmpty then readChild fuel indent rest
      else .ok (.scalar (readScalar (trim value)), rest)) = .ok (child, after)) :
    readMap (fuel + 1) indent (⟨number, indent, key.toList ++ ':' :: value⟩ :: rest) =
      (readMap fuel indent after).map fun (entries, rest) => ((key, child) :: entries, rest) := by
  rw [readMap, if_neg (Nat.lt_irrefl indent), if_neg (Nat.lt_irrefl indent), hkey.isItem,
    if_neg Bool.false_ne_true, hkey.splitAtColon? hvalue]
  simp only [hchild, String.ofList_toList]
  cases readMap fuel indent after <;> rfl

-- An entry on one line.
theorem isEntry_leaf (h : leaf.Reads) (depth : Nat) :
    IsEntry (2 * depth) [leaf.row depth] leaf.entry := by
  refine ⟨⟨_, _, rfl, rfl, h.key.isItem 0 0 _⟩, fun fuel number rest _ _ => ?_⟩
  have htrim : trim (' ' :: leaf.written.toList) = leaf.written.toList := by
    rw [trim_cons_blank (by decide), h.inline.trim]
  have hne : leaf.written.toList.isEmpty = false := List.isEmpty_eq_false_iff.mpr h.inline.ne_nil
  refine readMap_line h.key (.inr rfl) ?_
  rw [htrim, hne, if_neg Bool.false_ne_true, h.value]
  rfl

-- Rows that are one node.
structure IsNode (indent : Nat) (rows : List Row) (node : Node) : Prop where
  opens : ∃ item, Opens item indent rows
  reads : ∀ fuel number rest, 4 * rows.length + 3 ≤ fuel → StaysBelow indent rest →
    readNode fuel indent (numbered number rows ++ rest) = .ok (node, rest)

-- A key on a line of its own opens the node below it.
theorem isEntry_open {depth : Nat} {node : Node} (hkey : IsKey key) (h : IsNode indent rows node)
    (hdeep : 2 * depth < indent) :
    IsEntry (2 * depth) (openRow depth key :: rows) (key, node) := by
  refine ⟨⟨_, _, rfl, rfl, hkey.isItem 0 0 _⟩, fun fuel number rest hfuel hrest => ?_⟩
  obtain ⟨fuel, rfl⟩ : ∃ less, fuel = less + 1 := ⟨fuel - 1, by simp at hfuel; omega⟩
  have hnode := h.reads fuel (number + 1) rest (by simp at hfuel; omega) (hrest.mono (by omega))
  obtain ⟨item, row, others, rfl, rfl, -⟩ := h.opens
  refine readMap_line hkey (.inl rfl) ?_
  rw [numbered, List.cons_append] at hnode
  show (if (trim []).isEmpty then readChild (fuel + 1) (2 * depth)
    (⟨number + 1, 2 * row.depth, row.text⟩ :: (numbered (number + 1 + 1) others ++ rest)) else _) = _
  rw [trim_nil, List.isEmpty_nil, if_pos rfl, readChild, if_pos (.inl hdeep), hnode]

-- Entries one after the other are a map.
theorem isNode_map {pieces : List (List Row × (String × Node))} (hne : pieces ≠ [])
    (h : ∀ piece ∈ pieces, IsEntry indent piece.1 piece.2) :
    IsNode indent (pieces.flatMap (·.1)) (.map (pieces.map (·.2))) := by
  obtain ⟨row, others, hrows, hrow, hitem⟩ := opens_parts hne h
  refine ⟨⟨false, row, others, hrows, hrow, hitem⟩, fun fuel number rest hfuel hrest => ?_⟩
  obtain ⟨fuel, rfl⟩ : ∃ less, fuel = less + 1 := ⟨fuel - 1, by omega⟩
  have hmap := read_parts readMap_staysBelow h fuel number
    (by rw [Bool.toNat_false]; omega) hrest
  rw [hrows, numbered, List.cons_append] at hmap ⊢
  rw [readNode, show (Line.mk number (2 * row.depth) row.text).isItem = false from hitem,
    if_neg Bool.false_ne_true, hmap]

theorem isNode_entry {entry : String × Node} (h : IsEntry indent rows entry) :
    IsNode indent rows (.map [entry]) := by
  have hpieces : ∀ piece ∈ [(rows, entry)], IsEntry indent piece.1 piece.2 := by
    intro piece hpiece
    rw [List.mem_singleton.mp hpiece]
    exact h
  have hnode := isNode_map (List.cons_ne_nil _ _) hpieces
  rwa [List.flatMap_singleton] at hnode

-- Items one after the other are a list.
theorem isNode_list {pieces : List (List Row × Node)} (hne : pieces ≠ [])
    (h : ∀ piece ∈ pieces, IsItem indent piece.1 piece.2) :
    IsNode indent (pieces.flatMap (·.1)) (.list (pieces.map (·.2))) := by
  obtain ⟨row, others, hrows, hrow, hitem⟩ := opens_parts hne h
  refine ⟨⟨true, row, others, hrows, hrow, hitem⟩, fun fuel number rest hfuel hrest => ?_⟩
  obtain ⟨fuel, rfl⟩ : ∃ less, fuel = less + 1 := ⟨fuel - 1, by omega⟩
  have hlist := read_parts readList_staysBelow h fuel number
    (by rw [Bool.toNat_true]; omega) hrest
  rw [hrows, numbered, List.cons_append] at hlist ⊢
  rw [readNode, show (Line.mk number (2 * row.depth) row.text).isItem = true from hitem, if_pos rfl,
    hlist]

theorem rows_leaves (depth : Nat) (leaves : List Leaf) :
    (leaves.map fun leaf => ([leaf.row depth], leaf.entry)).flatMap (·.1) =
      leaves.map (Leaf.row depth) := by
  induction leaves with
  | nil => rfl
  | cons leaf leaves ih => rw [List.map_cons, List.flatMap_cons, ih]; rfl

theorem entries_leaves (depth : Nat) (leaves : List Leaf) :
    (leaves.map fun leaf => ([leaf.row depth], leaf.entry)).map (·.2) = leaves.map Leaf.entry := by
  rw [List.map_map]
  rfl

theorem isEntry_leaves {leaves : List Leaf} (h : ∀ leaf ∈ leaves, leaf.Reads) (depth : Nat) :
    ∀ piece ∈ leaves.map fun leaf => ([leaf.row depth], leaf.entry),
      IsEntry (2 * depth) piece.1 piece.2 := by
  intro piece hpiece
  obtain ⟨leaf, hleaf, rfl⟩ := List.mem_map.mp hpiece
  exact isEntry_leaf (h leaf hleaf) depth

theorem isNode_leaves {leaves : List Leaf} (hne : leaves ≠ []) (h : ∀ leaf ∈ leaves, leaf.Reads)
    (depth : Nat) :
    IsNode (2 * depth) (leaves.map (Leaf.row depth)) (.map (leaves.map Leaf.entry)) := by
  have hnode := isNode_map (by simpa using hne) (isEntry_leaves h depth)
  rwa [rows_leaves, entries_leaves] at hnode

-- The entries of an item are a map at the depth of its first key.
theorem isItem_leaves {leaves : List Leaf} (hne : leaves ≠ []) (h : ∀ leaf ∈ leaves, leaf.Reads) :
    IsItem 4 (itemRows leaves) (.map (leaves.map Leaf.entry)) := by
  obtain ⟨leaf, others, rfl⟩ := List.exists_cons_of_ne_nil hne
  have hleaf := h leaf List.mem_cons_self
  have htext : trimStart (' ' :: leaf.text) = leaf.text := by
    rw [trimStart, List.dropWhile_cons_of_pos (by decide)]
    exact trimStart_eq_self hleaf.isInline_text.first
  refine ⟨⟨_, _, rfl, rfl, rfl⟩, fun fuel number rest hfuel hrest => ?_⟩
  have hmap := read_parts readMap_staysBelow (isEntry_leaves h 3) fuel number
    (by rw [rows_leaves]; simpa [itemRows] using hfuel) (hrest.mono (by decide))
  rw [rows_leaves, entries_leaves, List.map_cons, numbered, List.cons_append] at hmap
  generalize hline : Line.mk number 4 ('-' :: ' ' :: leaf.text) = line
  have hfour : line.indent = 4 := by
    subst hline
    rfl
  have hitem : line.isItem = true := by
    subst hline
    rfl
  have hrest : line.itemText = leaf.text := by
    subst hline
    exact htext
  have hindent : byteLength line.text - byteLength leaf.text = 2 := by
    subst hline
    simp only [byteLength, show '-'.utf8Size = 1 from rfl, show ' '.utf8Size = 1 from rfl]
    omega
  have hwithout : line.withoutHyphen = ⟨number, 6, leaf.text⟩ := by
    subst hline
    simp only [Line.withoutHyphen, hrest, hindent]
  have hempty : leaf.text.isEmpty = false := List.isEmpty_eq_false_iff.mpr hleaf.isInline_text.ne_nil
  show readList (fuel + 1) 4 (⟨number, 4, '-' :: ' ' :: leaf.text⟩ ::
    (numbered (number + 1) (others.map (Leaf.row 3)) ++ rest)) = _
  rw [hline, readList, if_neg (by rw [hitem, hfour]; decide), if_neg (by rw [hfour]; decide),
    hrest, hempty, if_neg Bool.false_ne_true, hleaf.splitAtColon?, Option.isSome_some, if_pos rfl, hwithout]
  simp only [Leaf.row] at hmap
  rw [hmap]
  simp only
  cases readList fuel 4 rest <;> rfl

end NoteVault.Rules
