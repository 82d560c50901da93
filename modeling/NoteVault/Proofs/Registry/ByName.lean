import Mathlib.Data.List.Sort
import Mathlib.Data.String.Basic
import NoteVault.Registry.Index

namespace NoteVault

-- Lists without repetition, in the order of their names.
def ByName {α : Type} (name : α → String) (items : List α) : Prop :=
  items.Pairwise fun left right => name left < name right

section

variable {α : Type} {name : α → String} {items left right : List α}

theorem ByName.nodup (h : ByName name items) : (items.map name).Nodup :=
  List.pairwise_map.mpr (h.imp fun hlt => ne_of_lt hlt)

theorem ByName.eq_of_name (h : ByName name items) {item other : α} (hi : item ∈ items)
    (ho : other ∈ items) (hname : name item = name other) : item = other :=
  List.inj_on_of_nodup_map h.nodup hi ho hname

-- Such a list is known by its members.
theorem ByName.eq_of_mem_iff (hl : ByName name left) (hr : ByName name right)
    (h : ∀ item, item ∈ left ↔ item ∈ right) : left = right := by
  have hirrefl : Std.Irrefl fun left right : α => name left < name right :=
    ⟨fun item => String.lt_irrefl (name item)⟩
  have hantisymm : Std.Antisymm fun left right : α => name left < name right :=
    ⟨fun _ _ hlt hgt => (String.lt_irrefl _ (String.lt_trans hlt hgt)).elim⟩
  exact List.Pairwise.eq_of_mem_iff hl hr h

theorem byName_mergeSort (h : (items.map name).Nodup) :
    ByName name (items.mergeSort fun left right => name left ≤ name right) := by
  have hle : (items.mergeSort fun left right => name left ≤ name right).Pairwise
      fun left right => decide (name left ≤ name right) = true := by
    refine List.pairwise_mergeSort (fun a b c hab hbc => ?_) (fun a b => ?_) items
    · exact decide_eq_true (String.le_trans (of_decide_eq_true hab) (of_decide_eq_true hbc))
    · rw [Bool.or_eq_true]
      exact (String.le_total (name a) (name b)).imp decide_eq_true decide_eq_true
  have hne : (items.mergeSort fun left right => name left ≤ name right).Pairwise
      fun left right => name left ≠ name right := by
    rw [← List.pairwise_map, ← List.Nodup, ((List.mergeSort_perm _ _).map _).nodup_iff]
    exact h
  exact (hle.and hne).imp fun ⟨hle, hne⟩ => lt_of_le_of_ne (of_decide_eq_true hle) hne

theorem ByName.map {β : Type} {other : β → String} {change : α → β} (h : ByName name items)
    (hsame : ∀ item, other (change item) = name item) : ByName other (items.map change) := by
  refine List.pairwise_map.mpr (h.imp fun hlt => ?_)
  rwa [hsame, hsame]

end

section

variable {entry : Summary} {entries : List Summary} {base : KnowledgeBase} {bases others : List KnowledgeBase}

theorem map_name_replaceEntry (entry : Summary) (entries : List Summary) :
    (replaceEntry entry entries).map Summary.name =
      if entry.name ∈ entries.map Summary.name then entries.map Summary.name
      else entries.map Summary.name ++ [entry.name] := by
  induction entries with
  | nil => rfl
  | cons other rest ih =>
      rw [replaceEntry]
      by_cases hname : other.name = entry.name
      · simp [hname]
      · simp only [if_neg hname, List.map_cons, ih, List.mem_cons, Ne.symm hname, false_or]
        split <;> rfl

theorem nodup_replaceEntry (h : (entries.map Summary.name).Nodup) :
    ((replaceEntry entry entries).map Summary.name).Nodup := by
  rw [map_name_replaceEntry]
  split
  · exact h
  · rename_i hout
    exact List.nodup_append.mpr ⟨h, List.nodup_singleton _, fun name hname other hother heq =>
      hout (List.mem_singleton.mp hother ▸ heq ▸ hname)⟩

theorem mem_replaceEntry (h : (entries.map Summary.name).Nodup) {item : Summary} :
    item ∈ replaceEntry entry entries ↔ item = entry ∨ item.name ≠ entry.name ∧ item ∈ entries := by
  induction entries with
  | nil => simp [replaceEntry]
  | cons other rest ih =>
      rw [List.map_cons, List.nodup_cons] at h
      obtain ⟨hout, hrest⟩ := h
      rw [replaceEntry]
      split
      · rename_i hname
        have hothers : ∀ item ∈ rest, item.name ≠ entry.name := fun item hitem heq =>
          hout (List.mem_map.mpr ⟨item, hitem, heq.trans hname.symm⟩)
        simp only [List.mem_cons]
        constructor
        · rintro (rfl | hitem)
          · exact .inl rfl
          · exact .inr ⟨hothers item hitem, .inr hitem⟩
        · rintro (rfl | ⟨hne, rfl | hitem⟩)
          · exact .inl rfl
          · exact absurd hname hne
          · exact .inr hitem
      · rename_i hname
        simp only [List.mem_cons, ih hrest]
        constructor
        · rintro (rfl | rfl | ⟨hne, hitem⟩)
          · exact .inr ⟨hname, .inl rfl⟩
          · exact .inl rfl
          · exact .inr ⟨hne, .inr hitem⟩
        · rintro (rfl | ⟨hne, rfl | hitem⟩)
          · exact .inr (.inl rfl)
          · exact .inl rfl
          · exact .inr (.inr ⟨hne, hitem⟩)

-- A list without repetitions is in order when an entry was put there, and has the entry in place
-- of another of its name.
theorem byName_putEntry (h : (entries.map Summary.name).Nodup) (entry : Summary) :
    ByName Summary.name (putEntry entry entries) :=
  byName_mergeSort (nodup_replaceEntry h)

theorem mem_putEntry (h : (entries.map Summary.name).Nodup) {item : Summary} :
    item ∈ putEntry entry entries ↔ item = entry ∨ item.name ≠ entry.name ∧ item ∈ entries := by
  rw [putEntry, sortByName, List.mem_mergeSort, mem_replaceEntry h]

-- In a list with repetitions, too, the entry is put there, those of other names stay, and
-- nothing else comes in.
theorem mem_putEntry_self (entry : Summary) (entries : List Summary) : entry ∈ putEntry entry entries := by
  rw [putEntry, sortByName, List.mem_mergeSort]
  induction entries with
  | nil => exact List.mem_singleton_self entry
  | cons other rest ih =>
      rw [replaceEntry]
      split
      · exact List.mem_cons_self
      · exact List.mem_cons_of_mem other ih

theorem mem_putEntry_of_ne {item : Summary} (h : item ∈ entries) (hne : item.name ≠ entry.name) :
    item ∈ putEntry entry entries := by
  rw [putEntry, sortByName, List.mem_mergeSort]
  induction entries with
  | nil => cases h
  | cons other rest ih =>
      rw [replaceEntry]
      rcases List.mem_cons.mp h with rfl | h
      · rw [if_neg hne]
        exact List.mem_cons_self
      · split
        · exact List.mem_cons_of_mem entry h
        · exact List.mem_cons_of_mem other (ih h)

theorem eq_or_mem_of_mem_putEntry {item : Summary} (h : item ∈ putEntry entry entries) :
    item = entry ∨ item ∈ entries := by
  rw [putEntry, sortByName, List.mem_mergeSort] at h
  induction entries with
  | nil => exact .inl (List.mem_singleton.mp h)
  | cons other rest ih =>
      rw [replaceEntry] at h
      split at h
      · exact (List.mem_cons.mp h).imp_right (List.mem_cons_of_mem other)
      · rcases List.mem_cons.mp h with rfl | h
        · exact .inr List.mem_cons_self
        · exact (ih h).imp_right (List.mem_cons_of_mem other)

-- The knowledge bases after one of them was put on record.
def IsPut (base : KnowledgeBase) (bases others : List KnowledgeBase) : Prop :=
  ∀ other, other ∈ others ↔ other = base ∨ other.name ≠ base.name ∧ other ∈ bases

-- The same of what is shown of them, if it shows their names.
theorem IsPut.mem_map {α : Type} {shown : KnowledgeBase → α} (name : α → String)
    (hput : IsPut base bases others) (hname : ∀ base, name (shown base) = base.name) {item : α} :
    item ∈ others.map shown ↔
      item = shown base ∨ name item ≠ base.name ∧ item ∈ bases.map shown := by
  simp only [List.mem_map]
  constructor
  · rintro ⟨other, ho, rfl⟩
    rcases (hput other).mp ho with rfl | ⟨hne, ho⟩
    · exact .inl rfl
    · exact .inr ⟨(hname other).trans_ne hne, other, ho, rfl⟩
  · rintro (rfl | ⟨hne, other, ho, rfl⟩)
    · exact ⟨base, (hput base).mpr (.inl rfl), rfl⟩
    · exact ⟨other, (hput other).mpr (.inr ⟨(hname other).symm.trans_ne hne, ho⟩), rfl⟩

-- Putting it there again changes nothing.
theorem IsPut.again (hothers : ByName KnowledgeBase.name others) (hput : IsPut base bases others) :
    IsPut base others others := by
  have hbase : base ∈ others := (hput base).mpr (.inl rfl)
  intro other
  constructor
  · intro ho
    by_cases hname : other.name = base.name
    · exact .inl (hothers.eq_of_name ho hbase hname)
    · exact .inr ⟨hname, ho⟩
  · rintro (rfl | ⟨-, ho⟩)
    · exact hbase
    · exact ho

-- A list keeps up with the record of one knowledge base.
theorem putEntry_summary (hbases : ByName KnowledgeBase.name bases)
    (hothers : ByName KnowledgeBase.name others) (hput : IsPut base bases others) :
    putEntry base.summary (bases.map KnowledgeBase.summary) = others.map KnowledgeBase.summary := by
  have hold : ByName Summary.name (bases.map KnowledgeBase.summary) := hbases.map fun _ => rfl
  have hnew : ByName Summary.name (others.map KnowledgeBase.summary) := hothers.map fun _ => rfl
  refine (byName_putEntry hold.nodup base.summary).eq_of_mem_iff hnew fun item => ?_
  rw [mem_putEntry hold.nodup, hput.mem_map Summary.name fun _ => rfl]
  rfl

end

end NoteVault
