import NoteVault.Proofs.Rules.Scalar

namespace NoteVault

open Json Text

namespace Rules

-- A line of a block: how deep it stands and what it says.
structure Row where
  depth : Nat
  text : List Char

-- The line as it is written, without its line end.
def Row.chars (row : Row) : List Char :=
  List.replicate (2 * row.depth) ' ' ++ row.text

def rowsChars (rows : List Row) : List Char :=
  rows.flatMap fun row => row.chars ++ ['\n']

-- An entry on one line: its key, its value as it is written, and that value.
structure Leaf where
  key : String
  written : String
  value : Value

def Leaf.text (leaf : Leaf) : List Char :=
  leaf.key.toList ++ ':' :: ' ' :: leaf.written.toList

def Leaf.row (depth : Nat) (leaf : Leaf) : Row :=
  ⟨depth, leaf.text⟩

-- The line that opens a group of deeper ones.
def openRow (depth : Nat) (key : String) : Row :=
  ⟨depth, key.toList ++ [':']⟩

-- The first entry of an item stands behind the hyphen, the others below it.
def itemRows : List Leaf → List Row
  | [] => []
  | leaf :: leaves => ⟨2, '-' :: ' ' :: leaf.text⟩ :: leaves.map (Leaf.row 3)

def emptyLeaf (key : String) : Leaf :=
  ⟨key, "\x7b\x7d", .object []⟩

-- A group without entries is one line.
def groupRows (key : String) : List Leaf → List Row
  | [] => [(emptyLeaf key).row 0]
  | leaf :: leaves => openRow 0 key :: (leaf :: leaves).map (Leaf.row 1)

def optionalLeaf {α : Type} (key : String) (write : α → String) (toJson : α → Value)
    (part : Option α) : List Leaf :=
  part.toList.map fun part => ⟨key, write part, toJson part⟩

end Rules

open Rules

def RequiredField.leaves (field : RequiredField) : List Leaf :=
  [⟨"name", quote field.name, .string field.name⟩,
    ⟨"type", quote field.type.name, .string field.type.name⟩] ++
    optionalLeaf "pattern" quote .string field.pattern ++
    optionalLeaf "allowed_values" writeList .array field.allowedValues

def FrontMatterRules.rows (group : FrontMatterRules) : List Row :=
  match group.requiredFields with
  | none => groupRows "frontmatter" []
  | some [] => groupRows "frontmatter" [⟨"required_fields", writeList [], .array []⟩]
  | some (field :: fields) => openRow 0 "frontmatter" :: openRow 1 "required_fields" ::
      (field :: fields).flatMap fun field => itemRows field.leaves

def FilenameRules.leaves (group : FilenameRules) : List Leaf :=
  optionalLeaf "pattern" quote .string group.pattern

def ContentRules.leaves (group : ContentRules) : List Leaf :=
  optionalLeaf "min_length" toString .ofNat group.minLength ++
    optionalLeaf "max_length" toString .ofNat group.maxLength ++
    optionalLeaf "required_sections" (fun titles => writeList (titles.map .string))
      (fun titles => .array (titles.map .string)) group.requiredSections

def Rules.rows (rules : Rules) : List Row :=
  rules.frontMatter.toList.flatMap FrontMatterRules.rows ++
    rules.filename.toList.flatMap (fun group => groupRows "filename" group.leaves) ++
    rules.content.toList.flatMap fun group => groupRows "content" group.leaves

theorem rowsChars_cons (row : Row) (rows : List Row) :
    rowsChars (row :: rows) = row.chars ++ '\n' :: rowsChars rows := by
  rw [rowsChars, List.flatMap_cons, List.append_assoc]
  rfl

theorem rowsChars_append (rows others : List Row) :
    rowsChars (rows ++ others) = rowsChars rows ++ rowsChars others :=
  List.flatMap_append

theorem toList_blockLine (depth : Nat) (text : String) :
    (blockLine depth text).toList = rowsChars [⟨depth, text.toList⟩] := by
  simp [blockLine, indentation, rowsChars, Row.chars]

theorem toList_optionalLine {α : Type} (depth : Nat) (key : String) (write : α → String)
    (toJson : α → Value) (part : Option α) :
    (optionalLine depth (key) write part).toList =
      rowsChars ((optionalLeaf key write toJson part).map (Leaf.row depth)) := by
  cases part with
  | none => rfl
  | some part =>
      rw [optionalLine, toList_blockLine]
      simp [optionalLeaf, Leaf.row, Leaf.text]

theorem RequiredField.toList_toBlock (field : RequiredField) :
    field.toBlock.toList = rowsChars (itemRows field.leaves) := by
  have hname : ("- name: " ++ quote field.name).toList =
      '-' :: ' ' :: (Leaf.mk "name" (quote field.name) (.string field.name)).text := by
    simp [Leaf.text]
  have htype : ("type: " ++ quote field.type.name).toList =
      (Leaf.mk "type" (quote field.type.name) (.string field.type.name)).text := by
    simp [Leaf.text]
  rw [toBlock, String.toList_append, String.toList_append, String.toList_append, toList_blockLine,
    toList_blockLine, toList_optionalLine 3 "pattern" quote .string,
    toList_optionalLine 3 "allowed_values" writeList .array, hname, htype, ← rowsChars_append,
    ← rowsChars_append, ← rowsChars_append]
  simp only [leaves, itemRows, List.cons_append, List.nil_append, List.map_cons, List.map_append,
    Leaf.row]

theorem RequiredField.toList_listToBlock (fields : List RequiredField) :
    (listToBlock fields).toList = rowsChars (fields.flatMap fun field => itemRows field.leaves) := by
  induction fields with
  | nil => rfl
  | cons field fields ih =>
      rw [listToBlock, String.toList_append, toList_toBlock, ih, List.flatMap_cons, rowsChars_append]

theorem toList_emptyGroup (key : String) : (emptyGroup key).toList = rowsChars (groupRows key []) := by
  rw [emptyGroup, toList_blockLine]
  simp [groupRows, emptyLeaf, Leaf.row, Leaf.text]

theorem rowsChars_groupRows (key : String) {leaves : List Leaf} (hne : leaves ≠ []) :
    rowsChars (groupRows key leaves) =
      rowsChars [openRow 0 key] ++ rowsChars (leaves.map (Leaf.row 1)) := by
  rw [← rowsChars_append]
  cases leaves with
  | nil => exact absurd rfl hne
  | cons leaf leaves => rfl

theorem FrontMatterRules.toList_toBlock (group : FrontMatterRules) :
    group.toBlock.toList = rowsChars group.rows := by
  have hopen : ("frontmatter:" : String).toList = "frontmatter".toList ++ [':'] := by decide
  have hfields : ("required_fields:" : String).toList = "required_fields".toList ++ [':'] := by decide
  have hnone : ("required_fields: []" : String).toList =
      (Leaf.mk "required_fields" (writeList []) (.array [])).text := by decide
  obtain ⟨required⟩ := group
  match required with
  | none => exact toList_emptyGroup "frontmatter"
  | some [] =>
      simp only [toBlock, rows, String.toList_append, toList_blockLine, ← rowsChars_append, hopen,
        hnone]
      rfl
  | some (field :: fields) =>
      simp only [toBlock, rows, String.toList_append, toList_blockLine,
        RequiredField.toList_listToBlock, ← rowsChars_append, hopen, hfields]
      rfl

theorem FilenameRules.toList_toBlock (group : FilenameRules) :
    group.toBlock.toList = rowsChars (groupRows "filename" group.leaves) := by
  have hopen : ("filename:" : String).toList = "filename".toList ++ [':'] := by decide
  obtain ⟨pattern⟩ := group
  cases pattern with
  | none => exact toList_emptyGroup "filename"
  | some pattern =>
      have hline : ("pattern: " ++ quote pattern).toList =
          (Leaf.mk "pattern" (quote pattern) (.string pattern)).text := by
        simp [Leaf.text]
      show (blockLine 0 "filename:" ++ blockLine 1 ("pattern: " ++ quote pattern)).toList = _
      rw [String.toList_append, toList_blockLine, toList_blockLine, hopen, hline, ← rowsChars_append]
      rfl

theorem ContentRules.leaves_eq_nil_iff (group : ContentRules) : group.leaves = [] ↔
    (group.minLength.isNone && group.maxLength.isNone && group.requiredSections.isNone) = true := by
  obtain ⟨least, most, sections⟩ := group
  cases least <;> cases most <;> cases sections <;> simp [leaves, optionalLeaf]

theorem ContentRules.toList_toBlock (group : ContentRules) :
    group.toBlock.toList = rowsChars (groupRows "content" group.leaves) := by
  have hopen : ("content:" : String).toList = "content".toList ++ [':'] := by decide
  rw [toBlock]
  split
  · rename_i hempty
    rw [group.leaves_eq_nil_iff.mpr hempty]
    exact toList_emptyGroup "content"
  · rename_i hsome
    have hne : group.leaves ≠ [] := fun h => hsome (group.leaves_eq_nil_iff.mp h)
    rw [rowsChars_groupRows "content" hne, String.toList_append, String.toList_append,
      String.toList_append, toList_blockLine, toList_optionalLine 1 "min_length" toString .ofNat,
      toList_optionalLine 1 "max_length" toString .ofNat,
      toList_optionalLine 1 "required_sections" _ fun titles => .array (titles.map .string)]
    simp only [leaves, List.map_append, rowsChars_append, List.append_assoc, hopen]
    rfl

theorem toList_optionalBlock {α : Type} {write : α → String} {rows : α → List Row} (part : Option α)
    (h : ∀ group, (write group).toList = rowsChars (rows group)) :
    (optionalBlock write part).toList = rowsChars (part.toList.flatMap rows) := by
  cases part with
  | none => rfl
  | some group => simp [optionalBlock, h]

-- The lines of rules as they are written.
theorem Rules.toList_toBlock (rules : Rules) : rules.toBlock.toList = rowsChars rules.rows := by
  rw [toBlock, String.toList_append, String.toList_append,
    toList_optionalBlock _ FrontMatterRules.toList_toBlock,
    toList_optionalBlock _ FilenameRules.toList_toBlock,
    toList_optionalBlock _ ContentRules.toList_toBlock, ← rowsChars_append, ← rowsChars_append]
  rfl

end NoteVault
