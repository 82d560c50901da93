namespace NoteVault

-- Entries kept in increasing order of their keys, one for each key.
abbrev Keyed (ν : Type) := List (String × ν)

namespace Keyed

variable {ν : Type}

def get? (key : String) : Keyed ν → Option ν
  | [] => none
  | (other, value) :: rest => if other = key then some value else get? key rest

def contains (key : String) (entries : Keyed ν) : Bool :=
  (get? key entries).isSome

-- Puts the value at the place of its key and drops an older value of the key.
def insert (key : String) (value : ν) : Keyed ν → Keyed ν
  | [] => [(key, value)]
  | (other, old) :: rest =>
    if key < other then (key, value) :: (other, old) :: rest
    else if key = other then (key, value) :: rest
    else (other, old) :: insert key value rest

def erase (key : String) (entries : Keyed ν) : Keyed ν :=
  entries.filter fun entry => entry.1 != key

-- Of several values of one key the last is kept.
def ofList (entries : List (String × ν)) : Keyed ν :=
  entries.foldl (fun sorted entry => insert entry.1 entry.2 sorted) []

def keys (entries : Keyed ν) : List String :=
  entries.map (·.1)

@[simp] theorem get?_nil (key : String) : get? key ([] : Keyed ν) = none := rfl

theorem get?_insert_self (key : String) (value : ν) (entries : Keyed ν) :
    get? key (insert key value entries) = some value := by
  induction entries with
  | nil => simp [insert, get?]
  | cons entry rest ih =>
    obtain ⟨other, old⟩ := entry
    simp only [insert]
    split
    · simp [get?]
    · split
      · simp [get?]
      · next h => simp [get?, Ne.symm h, ih]

theorem get?_insert_of_ne {key other : String} (h : other ≠ key) (value : ν) (entries : Keyed ν) :
    get? other (insert key value entries) = get? other entries := by
  induction entries with
  | nil => simp [insert, get?, Ne.symm h]
  | cons entry rest ih =>
    obtain ⟨first, old⟩ := entry
    simp only [insert]
    split
    · simp [get?, Ne.symm h]
    · split
      · next hk => subst hk; simp [get?, Ne.symm h]
      · simp [get?, ih]

theorem get?_insert (key other : String) (value : ν) (entries : Keyed ν) :
    get? other (insert key value entries) = if other = key then some value else get? other entries := by
  split
  · next h => subst h; exact get?_insert_self other value entries
  · next h => exact get?_insert_of_ne h value entries

theorem get?_erase (key other : String) (entries : Keyed ν) :
    get? other (erase key entries) = if other = key then none else get? other entries := by
  induction entries with
  | nil => simp [erase]
  | cons entry rest ih =>
    obtain ⟨first, old⟩ := entry
    simp only [erase, List.filter_cons, get?] at ih ⊢
    by_cases h : first = key
    · subst h
      by_cases ho : other = first
      · simp_all
      · simp [ih, ho, Ne.symm ho]
    · by_cases hf : first = other
      · subst hf; simp [h, get?]
      · simp [h, get?, hf, ih]

-- Keys increase from entry to entry, so that no key comes twice.
def Sorted (entries : Keyed ν) : Prop :=
  entries.Pairwise fun left right => left.1 < right.1

theorem mem_insert {key : String} {value : ν} {entry : String × ν} {entries : Keyed ν}
    (h : entry ∈ insert key value entries) : entry = (key, value) ∨ entry ∈ entries := by
  induction entries with
  | nil => simpa [insert] using h
  | cons first rest ih =>
    simp only [insert] at h
    split at h
    · simpa using h
    · split at h
      · rcases List.mem_cons.1 h with h | h
        · exact .inl h
        · exact .inr (List.mem_cons_of_mem _ h)
      · rcases List.mem_cons.1 h with h | h
        · exact .inr (h ▸ List.mem_cons_self)
        · exact (ih h).imp_right (List.mem_cons_of_mem _)

theorem Sorted.insert {entries : Keyed ν} (h : Sorted entries) (key : String) (value : ν) :
    Sorted (insert key value entries) := by
  induction entries with
  | nil => exact List.pairwise_singleton _ _
  | cons first rest ih =>
    obtain ⟨other, old⟩ := first
    obtain ⟨below, rest_sorted⟩ := List.pairwise_cons.1 h
    simp only [Keyed.insert]
    split
    · next less =>
      refine List.pairwise_cons.2 ⟨fun entry he => ?_, h⟩
      rcases List.mem_cons.1 he with rfl | he
      · exact less
      · exact String.lt_trans less (below entry he)
    · next notLess =>
      split
      · next same => exact List.pairwise_cons.2 ⟨same ▸ below, rest_sorted⟩
      · next different =>
        refine List.pairwise_cons.2 ⟨fun entry he => ?_, ih rest_sorted⟩
        rcases mem_insert he with rfl | he
        · have above := String.not_lt.1 notLess
          exact String.not_le.1 fun le => different (String.le_antisymm le above)
        · exact below entry he

theorem Sorted.erase {entries : Keyed ν} (h : Sorted entries) (key : String) :
    Sorted (erase key entries) :=
  h.filter _

theorem sorted_ofList (entries : List (String × ν)) : Sorted (ofList entries) := by
  suffices grow : ∀ sorted : Keyed ν, Sorted sorted →
      Sorted (entries.foldl (fun sorted entry => insert entry.1 entry.2 sorted) sorted) from
    grow [] .nil
  induction entries with
  | nil => exact fun _ h => h
  | cons entry entries ih => exact fun _ h => ih _ (h.insert entry.1 entry.2)

end Keyed

end NoteVault
