import NoteVault.Proofs.Rules.Parts
import NoteVault.Proofs.Rules.RoundTrip

namespace NoteVault

open Json Rules

variable {α : Type} {key : String} {leaves : List Leaf}

-- Rules whose lengths fit in 64 bits and whose lists of allowed values, of any kind, are given
-- back by the JSON reader.
structure Rules.IsReadable (rules : Rules) : Prop where
  lists : ∀ field ∈ rules.requiredFields, ∀ values, field.allowedValues = some values →
    read (writeList values) = some (.array values)
  least : ∀ group, rules.content = some group → ∀ length, group.minLength = some length →
    length < Nat.pow 2 64
  most : ∀ group, rules.content = some group → ∀ length, group.maxLength = some length →
    length < Nat.pow 2 64

-- What the documents of the rules keep to, so that their written form means them.
structure Rules.IsWritable (rules : Rules) : Prop where
  shaped : rules.IsShaped
  fits : rules.FitsWords
  doubles : ∀ field ∈ rules.requiredFields, ∀ values, field.allowedValues = some values →
    ∀ value, .number (.double value) ∈ values →
      read (Value.number (.double value)).compact = some (.number (.double value))

namespace Rules

theorem reads_quote (hkey : IsKey key) (text : String) : (Leaf.mk key (quote text) (.string text)).Reads :=
  ⟨hkey, isInline_quote text, readScalar_quote text⟩

theorem reads_optionalLeaf {write : α → String} {toJson : α → Value} {part : Option α}
    (h : ∀ value, part = some value → (Leaf.mk key (write value) (toJson value)).Reads) :
    ∀ leaf ∈ optionalLeaf key write toJson part, leaf.Reads := by
  intro leaf hleaf
  obtain ⟨value, hvalue, rfl⟩ := List.mem_map.mp hleaf
  exact h value (Option.mem_toList.mp hvalue)

theorem IsWritable.isReadable {rules : Rules} (h : rules.IsWritable) : rules.IsReadable where
  lists field hfield values hvalues := by
    refine read_compact_array ((h.shaped field hfield).scalar values hvalues) fun number hnumber => ?_
    cases number with
    | integer value =>
        exact Number.readsBack_integer (h.fits.allowed field hfield values hvalues _ hnumber)
    | double value =>
        exact Number.readsBack_double (h.doubles field hfield values hvalues value hnumber)
  least := h.fits.least
  most := h.fits.most

theorem reads_writeList (hkey : IsKey key) {values : List Value}
    (hread : read (writeList values) = some (.array values)) :
    (Leaf.mk key (writeList values) (.array values)).Reads :=
  ⟨hkey, isInline_writeList values, readScalar_writeList hread⟩

theorem reads_titles (hkey : IsKey key) (titles : List String) :
    (Leaf.mk key (writeList (titles.map .string)) (.array (titles.map .string))).Reads := by
  refine reads_writeList hkey (read_compact_array (fun value h => ?_) fun number h => ?_)
  · obtain ⟨title, -, rfl⟩ := List.mem_map.mp h
    rfl
  · obtain ⟨title, -, heq⟩ := List.mem_map.mp h
    cases heq

theorem reads_length (hkey : IsKey key) {length : Nat} (h : length < Nat.pow 2 64) :
    (Leaf.mk key (toString length) (.ofNat length)).Reads :=
  ⟨hkey, isInline_length length, readScalar_length h⟩

theorem reads_emptyLeaf (hkey : IsKey key) : (emptyLeaf key).Reads := by
  have hopen : IsInline ['\x7b'] := isInline_singleton (by decide) (by decide)
  have hclose : IsInline ['\x7d'] := isInline_singleton (by decide) (by decide)
  have hbraces : IsInline ("\x7b\x7d" : String).toList :=
    hopen.append hclose [] fun _ h => nomatch h
  have hread : readScalar ("\x7b\x7d" : String).toList = .object [] := by decide
  exact ⟨hkey, hbraces, hread⟩

-- A group as a node: an empty one is an empty object on its line.
def groupNode : List Leaf → Node
  | [] => .scalar (.object [])
  | leaf :: leaves => .map ((leaf :: leaves).map Leaf.entry)

theorem isEntry_group (hkey : IsKey key) (h : ∀ leaf ∈ leaves, leaf.Reads) :
    IsEntry 0 (groupRows key leaves) (key, groupNode leaves) := by
  cases leaves with
  | nil => exact isEntry_leaf (reads_emptyLeaf hkey) 0
  | cons leaf leaves =>
      exact isEntry_open hkey (isNode_leaves (List.cons_ne_nil _ _) h 1) (show 2 * 0 < 2 * 1 by decide)

theorem isPlain_rows (h : ∀ leaf ∈ leaves, leaf.Reads) (depth : Nat) :
    ∀ row ∈ leaves.map (Leaf.row depth), row.IsPlain := by
  intro row hrow
  obtain ⟨leaf, hleaf, rfl⟩ := List.mem_map.mp hrow
  exact (h leaf hleaf).isPlain_row depth

theorem isPlain_groupRows (hkey : IsKey key) (h : ∀ leaf ∈ leaves, leaf.Reads) :
    ∀ row ∈ groupRows key leaves, row.IsPlain := by
  cases leaves with
  | nil =>
      intro row hrow
      rw [List.mem_singleton.mp hrow]
      exact (reads_emptyLeaf hkey).isPlain_row 0
  | cons leaf leaves =>
      exact List.forall_mem_cons.mpr ⟨isPlain_openRow hkey 0, isPlain_rows h 1⟩

theorem isPlain_itemRows (h : ∀ leaf ∈ leaves, leaf.Reads) : ∀ row ∈ itemRows leaves, row.IsPlain := by
  cases leaves with
  | nil => exact fun _ hrow => nomatch hrow
  | cons leaf leaves =>
      obtain ⟨hleaf, hleaves⟩ := List.forall_mem_cons.mp h
      refine List.forall_mem_cons.mpr ⟨?_, isPlain_rows hleaves 3⟩
      have hhyphen : IsInline ['-'] := isInline_singleton (by decide) (by decide)
      exact ⟨hhyphen.append hleaf.isInline_text [' '] (by decide), by
        intro char hc
        rw [← Option.some.inj hc]
        decide⟩

end Rules

theorem RequiredField.reads_leaves {field : RequiredField}
    (hlists : ∀ values, field.allowedValues = some values →
      read (writeList values) = some (.array values)) : ∀ leaf ∈ field.leaves, leaf.Reads := by
  rw [leaves]
  simp only [List.forall_mem_append, List.forall_mem_cons]
  refine ⟨⟨⟨reads_quote (by decide) _, reads_quote (by decide) _, fun _ h => absurd h List.not_mem_nil⟩,
    ?_⟩, ?_⟩
  · exact reads_optionalLeaf fun pattern _ => reads_quote (by decide) pattern
  · exact reads_optionalLeaf fun values hv => reads_writeList (by decide) (hlists values hv)

theorem FilenameRules.reads_leaves (group : FilenameRules) : ∀ leaf ∈ group.leaves, leaf.Reads :=
  reads_optionalLeaf fun pattern _ => reads_quote (by decide) pattern

theorem ContentRules.reads_leaves {group : ContentRules}
    (hleast : ∀ length, group.minLength = some length → length < Nat.pow 2 64)
    (hmost : ∀ length, group.maxLength = some length → length < Nat.pow 2 64) :
    ∀ leaf ∈ group.leaves, leaf.Reads := by
  rw [leaves]
  simp only [List.forall_mem_append]
  refine ⟨⟨?_, ?_⟩, ?_⟩
  · exact reads_optionalLeaf fun length hl => reads_length (by decide) (hleast length hl)
  · exact reads_optionalLeaf fun length hl => reads_length (by decide) (hmost length hl)
  · exact reads_optionalLeaf fun titles _ => reads_titles (by decide) titles

-- The lines of front-matter rules that require no field.
def noFields : Leaf :=
  ⟨"required_fields", writeList [], .array []⟩

theorem reads_noFields : ∀ leaf ∈ [noFields], leaf.Reads := by
  intro leaf hleaf
  rw [List.mem_singleton.mp hleaf]
  exact reads_titles (by decide) []

theorem reads_nil : ∀ leaf ∈ ([] : List Leaf), leaf.Reads :=
  fun _ h => nomatch h

-- The nodes of a group, of its fields and of all rules.
def RequiredField.node (field : RequiredField) : Node :=
  .map (field.leaves.map Leaf.entry)

def FrontMatterRules.node (group : FrontMatterRules) : Node :=
  match group.requiredFields with
  | none => groupNode []
  | some [] => groupNode [noFields]
  | some (field :: fields) =>
    .map [("required_fields", .list ((field :: fields).map RequiredField.node))]

theorem RequiredField.isItem {field : RequiredField} (h : ∀ leaf ∈ field.leaves, leaf.Reads) :
    IsItem 4 (itemRows field.leaves) field.node :=
  isItem_leaves (List.cons_ne_nil _ _) h

theorem isNode_fields {fields : List RequiredField} (hne : fields ≠ [])
    (h : ∀ field ∈ fields, ∀ leaf ∈ field.leaves, leaf.Reads) :
    IsNode 4 (fields.flatMap fun field => itemRows field.leaves)
      (.list (fields.map RequiredField.node)) := by
  have hitems : ∀ piece ∈ fields.map fun field => (itemRows field.leaves, field.node),
      IsItem 4 piece.1 piece.2 := by
    intro piece hpiece
    obtain ⟨field, hfield, rfl⟩ := List.mem_map.mp hpiece
    exact RequiredField.isItem (h field hfield)
  have hnode := isNode_list (by simpa using hne) hitems
  rwa [List.flatMap_map, List.map_map] at hnode

section

variable {group : FrontMatterRules}
  (h : ∀ found, group.requiredFields = some found → ∀ field ∈ found, ∀ leaf ∈ field.leaves, leaf.Reads)
include h

theorem FrontMatterRules.isEntry : IsEntry 0 group.rows ("frontmatter", group.node) := by
  have hkey : IsKey "frontmatter" := by decide
  have hgroup : ∀ {leaves : List Leaf}, (∀ leaf ∈ leaves, leaf.Reads) →
      IsEntry 0 (groupRows "frontmatter" leaves) ("frontmatter", groupNode leaves) :=
    isEntry_group hkey
  obtain ⟨required⟩ := group
  match required with
  | none => exact hgroup reads_nil
  | some [] => exact hgroup reads_noFields
  | some (field :: fields) =>
      have hfields := isNode_fields (List.cons_ne_nil field fields) (h _ rfl)
      have hentry := isEntry_open (show IsKey "required_fields" by decide) hfields
        (show 2 * 1 < 4 by decide)
      exact isEntry_open hkey (isNode_entry hentry) (show 2 * 0 < 2 * 1 by decide)

theorem FrontMatterRules.isPlain : ∀ row ∈ group.rows, row.IsPlain := by
  have hkey : IsKey "frontmatter" := by decide
  have hgroup : ∀ {leaves : List Leaf}, (∀ leaf ∈ leaves, leaf.Reads) →
      ∀ row ∈ groupRows "frontmatter" leaves, row.IsPlain := isPlain_groupRows hkey
  obtain ⟨required⟩ := group
  match required with
  | none => exact hgroup reads_nil
  | some [] => exact hgroup reads_noFields
  | some (field :: fields) =>
      refine List.forall_mem_cons.mpr ⟨isPlain_openRow hkey 0,
        List.forall_mem_cons.mpr ⟨isPlain_openRow (by decide) 1, fun row hrow => ?_⟩⟩
      obtain ⟨field, hfield, hrow⟩ := List.mem_flatMap.mp hrow
      exact isPlain_itemRows (h _ rfl field hfield) row hrow

end

section

theorem entriesToJson_leaves (leaves : List Leaf) :
    Node.entriesToJson (leaves.map Leaf.entry) = leaves.map fun leaf => (leaf.key, leaf.value) := by
  induction leaves with
  | nil => rfl
  | cons leaf leaves ih =>
      rw [List.map_cons, List.map_cons, ← ih]
      rfl

theorem toJson_groupNode (leaves : List Leaf) :
    (groupNode leaves).toJson = .ofFields (leaves.map fun leaf => (leaf.key, leaf.value)) := by
  cases leaves with
  | nil => rfl
  | cons leaf leaves => rw [groupNode, Node.toJson, entriesToJson_leaves]

theorem fields_optionalLeaf (key : String) (write : α → String) (toJson : α → Value) (part : Option α) :
    (optionalLeaf key write toJson part).map (fun leaf => (leaf.key, leaf.value)) =
      optionalField key toJson part := by
  rw [optionalLeaf, List.map_map]
  rfl

theorem RequiredField.toJson_node (field : RequiredField) : field.node.toJson = field.toJson := by
  rw [node, Node.toJson, entriesToJson_leaves, leaves, List.map_append, List.map_append,
    fields_optionalLeaf, fields_optionalLeaf]
  rfl

theorem itemsToJson_fields (fields : List RequiredField) :
    Node.itemsToJson (fields.map RequiredField.node) = fields.map RequiredField.toJson := by
  induction fields with
  | nil => rfl
  | cons field fields ih => rw [List.map_cons, Node.itemsToJson, field.toJson_node, ih, List.map_cons]

theorem FrontMatterRules.toJson_node (group : FrontMatterRules) : group.node.toJson = group.toJson := by
  obtain ⟨required⟩ := group
  match required with
  | none => exact toJson_groupNode []
  | some [] => exact toJson_groupNode [noFields]
  | some (field :: fields) =>
      simp only [node, toJson, Node.toJson, Node.entriesToJson, itemsToJson_fields]
      rfl

theorem FilenameRules.toJson_node (group : FilenameRules) :
    (groupNode group.leaves).toJson = group.toJson := by
  rw [toJson_groupNode, leaves, fields_optionalLeaf]
  rfl

theorem ContentRules.toJson_node (group : ContentRules) :
    (groupNode group.leaves).toJson = group.toJson := by
  rw [toJson_groupNode, leaves, List.map_append, List.map_append, fields_optionalLeaf,
    fields_optionalLeaf, fields_optionalLeaf]
  rfl

end

namespace Rules

variable {rules : Rules}

-- The groups that are there, each with its rows and its entry.
def pieces (rules : Rules) : List (List Row × (String × Node)) :=
  rules.frontMatter.toList.map (fun group => (group.rows, ("frontmatter", group.node))) ++
    rules.filename.toList.map (fun group =>
      (groupRows "filename" group.leaves, ("filename", groupNode group.leaves))) ++
    rules.content.toList.map fun group =>
      (groupRows "content" group.leaves, ("content", groupNode group.leaves))

theorem rows_eq (rules : Rules) : rules.rows = rules.pieces.flatMap (·.1) := by
  rw [rows, pieces, List.flatMap_append, List.flatMap_append, List.flatMap_map, List.flatMap_map,
    List.flatMap_map]

theorem toJson_pieces (rules : Rules) :
    (Node.map (rules.pieces.map (·.2))).toJson = rules.toJson := by
  obtain ⟨front, name, content⟩ := rules
  cases front <;> cases name <;> cases content <;>
    simp only [pieces, toJson, Option.toList_none, Option.toList_some, List.map_nil, List.map_cons,
      List.nil_append, List.append_nil, List.cons_append, Node.toJson, Node.entriesToJson,
      FrontMatterRules.toJson_node, FilenameRules.toJson_node, ContentRules.toJson_node] <;> rfl

theorem IsReadable.reads_fields (h : rules.IsReadable) {group : FrontMatterRules}
    (hgroup : rules.frontMatter = some group) :
    ∀ found, group.requiredFields = some found → ∀ field ∈ found, ∀ leaf ∈ field.leaves, leaf.Reads := by
  intro found hfound field hfield
  have hmem : field ∈ rules.requiredFields := by
    simp only [requiredFields, hgroup, hfound]
    exact hfield
  exact RequiredField.reads_leaves (h.lists field hmem)

theorem IsReadable.reads_content (h : rules.IsReadable) {group : ContentRules}
    (hgroup : rules.content = some group) : ∀ leaf ∈ group.leaves, leaf.Reads :=
  ContentRules.reads_leaves (h.least group hgroup) (h.most group hgroup)

theorem IsReadable.piece (h : rules.IsReadable) : ∀ piece ∈ rules.pieces,
    IsEntry 0 piece.1 piece.2 ∧ ∀ row ∈ piece.1, row.IsPlain := by
  intro piece hpiece
  simp only [pieces, List.mem_append, List.mem_map, Option.mem_toList] at hpiece
  rcases hpiece with (⟨group, hgroup, rfl⟩ | ⟨group, hgroup, rfl⟩) | ⟨group, hgroup, rfl⟩
  · exact ⟨FrontMatterRules.isEntry (h.reads_fields hgroup),
      FrontMatterRules.isPlain (h.reads_fields hgroup)⟩
  · exact ⟨isEntry_group (by decide) group.reads_leaves, isPlain_groupRows (by decide) group.reads_leaves⟩
  · exact ⟨isEntry_group (by decide) (h.reads_content hgroup),
      isPlain_groupRows (by decide) (h.reads_content hgroup)⟩

theorem IsReadable.isPlain (h : rules.IsReadable) : ∀ row ∈ rules.rows, row.IsPlain := by
  intro row hrow
  rw [rows_eq] at hrow
  obtain ⟨piece, hpiece, hrow⟩ := List.mem_flatMap.mp hrow
  exact (h.piece piece hpiece).2 row hrow

theorem IsReadable.nodeOfLines (h : rules.IsReadable) :
    nodeOfLines (numbered 1 rules.rows) = .ok (.map (rules.pieces.map (·.2))) := by
  rw [rows_eq]
  by_cases hnil : rules.pieces = []
  · rw [hnil]
    rfl
  · have hnode := isNode_map hnil fun piece hpiece => (h.piece piece hpiece).1
    obtain ⟨item, row, others, hrows, hrow, -⟩ := hnode.opens
    have hread := hnode.reads (4 * (rules.pieces.flatMap (·.1)).length + 4) 1 [] (by omega)
      fun _ hline => nomatch hline
    rw [← length_numbered 1, List.append_nil, ← fuelFor] at hread
    rw [hrows, numbered, hrow] at hread ⊢
    simp only [Rules.nodeOfLines, hread]

-- The block of such rules means the rules.
theorem IsReadable.readBlock (h : rules.IsReadable) :
    readBlock rules.toBlock = .ok rules.toJson := by
  have hlines : linesOf rules.toBlock = numbered 1 rules.rows := by
    rw [← String.ofList_toList (s := rules.toBlock), toList_toBlock, linesOf_rowsChars h.isPlain]
  rw [Rules.readBlock, nodeOfText, hlines, h.nodeOfLines, Except.map, toJson_pieces]

end Rules

end NoteVault
