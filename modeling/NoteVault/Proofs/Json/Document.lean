import NoteVault.Proofs.Json.Spelling
import NoteVault.Rules.Shape

namespace NoteVault.Json

variable {depth level : Nat} {value : Value} {items : List Value} {fields : List (String × Value)}

theorem isGaps_nil : IsGaps [] :=
  fun _ h => nomatch h

-- The one-line form of a value without parts.
theorem spells_scalar (hscalar : isScalar value = true)
    (hnumber : ∀ number, value = .number number → number.ReadsBack) :
    Spells depth value value.compactChars := by
  cases value with
  | null => exact .null
  | bool value =>
      cases value with
      | true => exact .yes
      | false => exact .no
  | number number => exact .number (hnumber number rfl)
  | string text => exact .string text
  | array | object => cases hscalar

theorem spellsItems_compact (hne : items ≠ [])
    (h : ∀ item ∈ items, Spells depth item item.compactChars) :
    SpellsItems depth items (Value.compactItems items) := by
  induction items with
  | nil => exact absurd rfl hne
  | cons item items ih =>
      have hitem := h item List.mem_cons_self
      cases items with
      | nil =>
          have hlast := SpellsItems.last isGaps_nil hitem isGaps_nil
          rwa [List.append_nil] at hlast
      | cons next items =>
          exact .more isGaps_nil hitem (ih (List.cons_ne_nil _ _) fun other ho =>
            h other (List.mem_cons_of_mem item ho))

theorem spells_compact_array (h : ∀ item ∈ items, Spells (depth + 1) item item.compactChars) :
    Spells (depth + 2) (.array items) (Value.array items).compactChars := by
  cases items with
  | nil => exact .emptyArray
  | cons item items => exact .array (spellsItems_compact (List.cons_ne_nil _ _) h)

-- Arrays whose items have no parts are read back from one line.
theorem read_compact_array (hscalar : ∀ item ∈ items, isScalar item = true)
    (hnumber : ∀ number, .number number ∈ items → number.ReadsBack) :
    read (Value.array items).compact = some (.array items) := by
  have hspells : Spells (126 + 2) (.array items) (Value.array items).compactChars :=
    spells_compact_array fun item hi =>
      spells_scalar (hscalar item hi) fun number hn => hnumber number (hn ▸ hi)
  have hcanonical : Value.canonicalItems items = items := by
    clear hnumber hspells
    induction items with
    | nil => rfl
    | cons item items ih =>
        obtain ⟨hitem, hitems⟩ := List.forall_mem_cons.mp hscalar
        rw [Value.canonicalItems, ih hitems]
        congr 1
        cases item with
        | array | object => cases hitem
        | null | bool | number | string => rfl
  rw [read, Value.compact, readWritten_of_spells hspells, Option.map_some, Value.canonical,
    hcanonical]

theorem read_quote (text : String) : read (quote text) = some (.string text) := by
  rw [read, quote, readWritten_of_spells (.string text)]
  rfl

section

variable (level)

theorem spellsItems_pretty (hne : items ≠ [])
    (h : ∀ item ∈ items, Spells depth item (item.prettyChars (level + 1))) :
    SpellsItems depth items (Value.prettyItems level items ++ Value.newLine level) := by
  have hline : IsGaps (Value.newLine (level + 1)) := isGaps_newLine _
  induction items with
  | nil => exact absurd rfl hne
  | cons item items ih =>
      have hitem := h item List.mem_cons_self
      cases items with
      | nil =>
          rw [Value.prettyItems, List.append_assoc]
          exact .last hline hitem (isGaps_newLine level)
      | cons next items =>
          have hrest := ih (List.cons_ne_nil _ _) fun other ho => h other (List.mem_cons_of_mem item ho)
          rw [Value.prettyItems, List.append_assoc, List.append_assoc, List.cons_append]
          exact .more hline hitem hrest

theorem spells_pretty_array
    (h : ∀ item ∈ items, Spells (depth + 1) item (item.prettyChars (level + 1))) :
    Spells (depth + 2) (.array items) ((Value.array items).prettyChars level) := by
  cases items with
  | nil =>
      rw [Value.prettyChars]
      exact .emptyArray
  | cons item items =>
      rw [Value.prettyChars]
      exact .array (spellsItems_pretty level (List.cons_ne_nil _ _) h)

theorem spellsFields_pretty (hne : fields ≠ [])
    (h : ∀ field ∈ fields, Spells depth field.2 (field.2.prettyChars (level + 1))) :
    SpellsFields depth fields (Value.prettyFields level fields ++ Value.newLine level) := by
  have hline : IsGaps (Value.newLine (level + 1)) := isGaps_newLine _
  have hblank : IsGaps [' '] := fun char hc => List.mem_singleton.mp hc ▸ rfl
  induction fields with
  | nil => exact absurd rfl hne
  | cons field fields ih =>
      obtain ⟨key, value⟩ := field
      have hvalue := h (key, value) List.mem_cons_self
      cases fields with
      | nil =>
          have hlast : SpellsFields depth [(key, value)] _ :=
            .last hline hblank hvalue (isGaps_newLine level)
          simpa only [Value.prettyFields, List.append_assoc, List.cons_append, List.nil_append]
            using hlast
      | cons next fields =>
          have hrest := ih (List.cons_ne_nil _ _) fun other ho =>
            h other (List.mem_cons_of_mem _ ho)
          have hmore : SpellsFields depth ((key, value) :: next :: fields) _ :=
            .more hline hblank hvalue hrest
          simpa only [Value.prettyFields, List.append_assoc, List.cons_append, List.nil_append]
            using hmore

theorem spells_pretty_object
    (h : ∀ field ∈ fields, Spells (depth + 1) field.2 (field.2.prettyChars (level + 1))) :
    Spells (depth + 2) (.object fields) ((Value.object fields).prettyChars level) := by
  cases fields with
  | nil =>
      rw [Value.prettyChars]
      exact .emptyObject
  | cons field fields =>
      rw [Value.prettyChars]
      exact .object (spellsFields_pretty level (List.cons_ne_nil _ _) h)

end

end NoteVault.Json
