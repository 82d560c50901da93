import NoteVault.Proofs.Json.Document
import NoteVault.Registry.Index

namespace NoteVault

open Json

-- Instants that every document can hold: of the calendar, in a year of four digits.
structure Time.Instant.IsPlain (instant : Instant) : Prop where
  valid : instant.isValid = true
  year : 0 ≤ instant.date.year ∧ instant.date.year ≤ 9999

namespace Index

variable {instant : Time.Instant} {entry : Summary} {index : Index}

theorem instant?_text (h : instant.IsPlain) : instant? (.string instant.text) = some instant := by
  rw [instant?, Value.string?, Option.bind_some, Time.Instant.ofLooseText?_text h.valid h.year]

theorem summary?_fields (h : entry.createTime.IsPlain) : summary? (.object entry.fields) = some entry := by
  have hparts : partsOf? summaryKeys (.object entry.fields) =
      some [some (.string entry.name), some (.string entry.description),
        some (.string entry.subfolder), some (.string entry.createTime.text),
        some (.string entry.rulesPreview)] := by
    simp [partsOf?, summaryKeys, Summary.fields]
  simp only [summary?, hparts, Option.bind_eq_bind, Option.bind_some, Value.string?, instant?_text h,
    preview?]
  rfl

theorem summaries?_fields {entries : List Summary} (h : ∀ entry ∈ entries, entry.createTime.IsPlain) :
    summaries? (.array (entries.map fun entry => .object entry.fields)) = some entries := by
  rw [summaries?]
  induction entries with
  | nil => rfl
  | cons entry entries ih =>
      obtain ⟨hentry, hentries⟩ := List.forall_mem_cons.mp h
      rw [List.map_cons, List.mapM_cons, summary?_fields hentry, ih hentries]
      rfl

-- The document of an index, as the reader takes it apart.
def value (index : Index) : Value :=
  .object [("version", .ofNat version), ("updated_at", .string index.updated.text),
    ("knowledge_bases", .array (index.entries.map fun entry => .object entry.fields))]

theorem spells_entry (entry : Summary) (level : Nat) :
    Spells (depth + 2) (.object entry.fields) ((Value.object entry.fields).prettyChars level) := by
  refine spells_pretty_object level ?_
  simp only [Summary.fields, List.forall_mem_cons]
  exact ⟨.string _, .string _, .string _, .string _, .string _, fun _ h => nomatch h⟩

theorem readWritten_document (index : Index) : readWritten index.document = some index.value := by
  have hspells : Spells (122 + 6) index.value (index.value.prettyChars 0) := by
    refine spells_pretty_object 0 ?_
    simp only [List.forall_mem_cons]
    refine ⟨?_, .string _, ?_, fun _ h => nomatch h⟩
    · exact .number (Number.readsBack_integer (by decide))
    · refine spells_pretty_array 1 fun item hitem => ?_
      obtain ⟨entry, -, rfl⟩ := List.mem_map.mp hitem
      exact spells_entry entry 2
  exact readWritten_of_spells hspells

-- An index comes back from its document.
theorem ofDocument?_document (hupdated : index.updated.IsPlain)
    (hentries : ∀ entry ∈ index.entries, entry.createTime.IsPlain) :
    ofDocument? index.document = some index := by
  have hparts : partsOf? keys index.value = some [some (.ofNat version),
      some (.string index.updated.text),
      some (.array (index.entries.map fun entry => .object entry.fields))] := by
    simp [partsOf?, keys, value]
  simp only [ofDocument?, readWritten_document, hparts, Option.bind_eq_bind, Option.bind_some,
    instant?_text hupdated, summaries?_fields hentries]
  rfl

end Index

end NoteVault
