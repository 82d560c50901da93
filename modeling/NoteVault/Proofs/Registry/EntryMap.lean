import NoteVault.Proofs.Registry.ByName

namespace NoteVault

-- The first entry of a name.
def named? (name : String) (entries : List Summary) : Option Summary :=
  entries.find? fun entry => entry.name = name

-- The list after entries were put there, one after the other.
def putEntries (puts entries : List Summary) : List Summary :=
  puts.foldl (fun entries entry => putEntry entry entries) entries

variable {entry other : Summary} {entries left right : List Summary} {name : String}

theorem name_of_named? (h : named? name entries = some entry) : entry.name = name := by
  simpa using List.find?_some h

-- A list without repetitions is a map from names to entries.
theorem named?_eq_some_iff (h : (entries.map Summary.name).Nodup) :
    named? name entries = some entry ↔ entry ∈ entries ∧ entry.name = name := by
  constructor
  · intro hfind
    exact ⟨List.mem_of_find?_eq_some hfind, name_of_named? hfind⟩
  · rintro ⟨hentry, rfl⟩
    obtain ⟨found, hfound⟩ : ∃ found, named? entry.name entries = some found :=
      Option.isSome_iff_exists.mp (List.find?_isSome.mpr ⟨entry, hentry, decide_eq_true rfl⟩)
    rw [hfound, List.inj_on_of_nodup_map h (List.mem_of_find?_eq_some hfound) hentry
      (name_of_named? hfound)]

-- In the order of the names, the list is known by that map.
theorem ByName.eq_of_named? (hl : ByName Summary.name left) (hr : ByName Summary.name right)
    (h : ∀ name, named? name left = named? name right) : left = right := by
  refine hl.eq_of_mem_iff hr fun item => ?_
  have hleft : named? item.name left = some item ↔ item ∈ left :=
    (named?_eq_some_iff hl.nodup).trans (and_iff_left rfl)
  have hright : named? item.name right = some item ↔ item ∈ right :=
    (named?_eq_some_iff hr.nodup).trans (and_iff_left rfl)
  rw [← hleft, ← hright, h item.name]

theorem named?_filter {hidden : String} (h : name ≠ hidden) (entries : List Summary) :
    named? name (entries.filter fun entry => entry.name ≠ hidden) = named? name entries := by
  rw [named?, named?, List.find?_filter]
  congr 1
  funext entry
  by_cases hname : entry.name = name
  · simp [hname, h]
  · simp [hname]

section

variable (h : (entries.map Summary.name).Nodup)
include h

theorem nodup_putEntry (entry : Summary) : ((putEntry entry entries).map Summary.name).Nodup :=
  (byName_putEntry h entry).nodup

theorem named?_putEntry (entry : Summary) (name : String) :
    named? name (putEntry entry entries) =
      if name = entry.name then some entry else named? name entries := by
  refine Option.ext fun item => ?_
  rw [named?_eq_some_iff (nodup_putEntry h entry), mem_putEntry h]
  split
  · rename_i hname
    rw [Option.some.injEq]
    constructor
    · rintro ⟨rfl | ⟨hother, -⟩, hitem⟩
      · rfl
      · exact absurd (hitem.trans hname) hother
    · rintro rfl
      exact ⟨.inl rfl, hname.symm⟩
  · rename_i hname
    rw [named?_eq_some_iff h]
    constructor
    · rintro ⟨rfl | ⟨-, hitem⟩, rfl⟩
      · exact absurd rfl hname
      · exact ⟨hitem, rfl⟩
    · rintro ⟨hitem, rfl⟩
      exact ⟨.inr ⟨hname, hitem⟩, rfl⟩

theorem perm_putEntry (entry : Summary) :
    (putEntry entry entries).Perm (entry :: entries.filter fun other => other.name ≠ entry.name) := by
  have hfilter : (entries.filter fun other => other.name ≠ entry.name).Nodup :=
    (List.Nodup.of_map Summary.name h).filter _
  refine (List.perm_ext_iff_of_nodup (List.Nodup.of_map Summary.name (nodup_putEntry h entry))
    (List.nodup_cons.mpr ⟨by simp, hfilter⟩)).mpr fun item => ?_
  rw [mem_putEntry h, List.mem_cons, List.mem_filter, decide_eq_true_eq, and_comm]

theorem nodup_putEntries (puts : List Summary) :
    ((putEntries puts entries).map Summary.name).Nodup := by
  induction puts generalizing entries with
  | nil => exact h
  | cons entry puts ih => exact ih (nodup_putEntry h entry)

-- After any puts an entry is the last one that was put there under its name, or else as it was.
theorem named?_putEntries (puts : List Summary) (name : String) :
    named? name (putEntries puts entries) = (named? name puts.reverse).or (named? name entries) := by
  induction puts generalizing entries with
  | nil => rfl
  | cons entry puts ih =>
      have hfirst : named? name (putEntry entry entries) =
          (named? name [entry]).or (named? name entries) := by
        rw [named?_putEntry h]
        by_cases hname : name = entry.name
        · simp [named?, hname]
        · simp [named?, hname, Ne.symm hname]
      calc named? name (putEntries (entry :: puts) entries)
          = (named? name puts.reverse).or (named? name (putEntry entry entries)) :=
            ih (nodup_putEntry h entry)
        _ = ((named? name puts.reverse).or (named? name [entry])).or (named? name entries) := by
            rw [hfirst, Option.or_assoc]
        _ = (named? name (entry :: puts).reverse).or (named? name entries) := by
            simp only [named?, List.reverse_cons, List.find?_append]

-- Puts of the name of an entry do not show once the entry is put there.
theorem putEntry_putEntries_filter (entry : Summary) (puts : List Summary) :
    putEntry entry (putEntries puts entries) =
      putEntry entry (putEntries (puts.filter fun other => other.name ≠ entry.name) entries) := by
  have hall := nodup_putEntries h puts
  have hother := nodup_putEntries h (puts.filter fun other => other.name ≠ entry.name)
  refine (byName_putEntry hall entry).eq_of_named? (byName_putEntry hother entry) fun name => ?_
  rw [named?_putEntry hall, named?_putEntry hother]
  split
  · rfl
  · rename_i hname
    rw [named?_putEntries h, named?_putEntries h, ← List.filter_reverse, named?_filter hname]

theorem putEntry_again (entry : Summary) :
    putEntry entry (putEntry entry entries) = putEntry entry entries := by
  simpa [putEntries] using putEntry_putEntries_filter h entry [entry]

theorem putEntry_comm {other : Summary} (hname : other.name ≠ entry.name) :
    putEntry other (putEntry entry entries) = putEntry entry (putEntry other entries) := by
  have hentry := nodup_putEntry h entry
  have hother := nodup_putEntry h other
  refine (byName_putEntry hentry other).eq_of_named? (byName_putEntry hother entry) fun name => ?_
  rw [named?_putEntry hentry, named?_putEntry hother, named?_putEntry h, named?_putEntry h]
  by_cases hentry : name = entry.name
  · rw [if_neg (hentry.trans_ne hname.symm), if_pos hentry, if_pos hentry]
  · rw [if_neg hentry, if_neg hentry]

end

-- To put an entry into a list without repetitions, in any order, is to update a map that is
-- kept in the order of its names.
theorem putEntry_updatesMap (h : (entries.map Summary.name).Nodup) (entry : Summary) :
    ByName Summary.name (putEntry entry entries) ∧
      named? entry.name (putEntry entry entries) = some entry ∧
      (putEntry entry entries).Perm
        (entry :: entries.filter fun other => other.name ≠ entry.name) ∧
      putEntry entry (putEntry entry entries) = putEntry entry entries ∧
      (∀ other, other.name ≠ entry.name →
        putEntry other (putEntry entry entries) = putEntry entry (putEntry other entries)) ∧
      ∀ puts, ByName Summary.name (putEntry entry (putEntries puts entries)) ∧
        putEntry entry (putEntries puts entries) =
          putEntry entry (putEntries (puts.filter fun other => other.name ≠ entry.name) entries) ∧
        ∀ name, named? name (putEntries puts entries) =
          (named? name puts.reverse).or (named? name entries) := by
  refine ⟨byName_putEntry h entry, ?_, perm_putEntry h entry, putEntry_again h entry,
    fun other => putEntry_comm h, fun puts => ⟨byName_putEntry (nodup_putEntries h puts) entry,
      putEntry_putEntries_filter h entry puts, named?_putEntries h puts⟩⟩
  rw [named?_putEntry h, if_pos rfl]

-- A list out of order, an entry that replaces another, and puts of its name and a new one.
theorem putEntry_updatesMap_unordered :
    let instant : Time.Instant := ⟨⟨2024, 5, 17⟩, 8, 30, 0, 0⟩
    let summary : String → String → Summary := fun name subfolder => ⟨name, "", subfolder, instant, ""⟩
    let entries := [summary "b" "beta", summary "a" "alpha"]
    let entry := summary "a" "first"
    (entries.map Summary.name).Nodup ∧ ByName Summary.name (putEntry entry entries) ∧
      (putEntry entry entries).Perm [entry, summary "b" "beta"] ∧
      putEntry entry (putEntries [summary "a" "old", summary "c" "gamma"] entries) =
        putEntry entry (putEntry (summary "c" "gamma") entries) := by
  intro instant summary entries entry
  have hnames : (entries.map Summary.name).Nodup := by decide
  obtain ⟨hsorted, -, hperm, -, -, hputs⟩ := putEntry_updatesMap hnames entry
  exact ⟨hnames, hsorted, hperm, (hputs _).2.1⟩

end NoteVault
