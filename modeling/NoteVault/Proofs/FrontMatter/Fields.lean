import Mathlib.Data.List.TakeWhile
import NoteVault.FrontMatter.Note
import NoteVault.Proofs.Text.Line

namespace NoteVault

namespace Keyed

variable {ν : Type}

theorem mem_keys_iff (key : String) (entries : Keyed ν) :
    key ∈ keys entries ↔ ∃ value, get? key entries = some value := by
  induction entries with
  | nil => simp [keys]
  | cons entry entries ih =>
      obtain ⟨other, value⟩ := entry
      simp only [keys, List.map_cons, List.mem_cons, get?] at ih ⊢
      by_cases h : other = key
      · simp [h]
      · simp [h, Ne.symm h, ih]

end Keyed

namespace FrontMatter

open Json Text

-- Blank lines and comments say nothing.
def IsSilent (line : List Char) : Prop :=
  trim line = [] ∨ (trim line).head? = some '#'

-- A hyphen alone or before a blank.
def IsItem (line : List Char) : Prop :=
  trim line = ['-'] ∨ ['-', ' '] <+: trim line

instance (line : List Char) : Decidable (IsSilent line) :=
  inferInstanceAs (Decidable (_ ∨ _))

instance (line : List Char) : Decidable (IsItem line) :=
  inferInstanceAs (Decidable (_ ∨ _))

-- What an item adds to a list.
def itemValue (line : List Char) : Value :=
  coerce ((trim line).drop 1)

-- A line that is no item, with a name before its first colon and any text after it.
structure IsEntry (line : List Char) (key : String) (value : List Char) : Prop where
  notItem : ¬ IsItem line
  named : key ≠ ""
  parts : ∃ before after, trim line = before ++ ':' :: after ∧ ':' ∉ before ∧
    key = String.ofList (trim before) ∧ value = trim after

-- The last entry of a key, with the longest run of items right below it.
def LastEntry (lines : List (List Char)) (key : String) (value : List Char)
    (items : List (List Char)) : Prop :=
  ∃ above line below, lines = above ++ line :: (items ++ below) ∧ IsEntry line key value ∧
    (∀ item ∈ items, IsItem item) ∧ (∀ next ∈ below.head?, ¬ IsItem next) ∧
    ∀ other ∈ below, ∀ value, ¬ IsEntry other key value

-- The value of a field from the text of its entry and the items below that.
def fieldValue (value : List Char) (items : List Value) : Value :=
  if value ≠ [] ∧ value ≠ ['[', ']'] then coerce value
  else if items ≠ [] then .array items
  else if value = [] then .null
  else .array []

variable {line value : List Char} {key : String} {lines items : List (List Char)}

theorem coerce_trim (chars : List Char) : coerce (trim chars) = coerce chars := by
  rw [coerce_eq (trim chars), coerce_eq chars, trim_trim]

theorem listItem?_eq_none_iff (chars : List Char) :
    listItem? chars = none ↔ ¬ (chars = ['-'] ∨ ['-', ' '] <+: chars) := by
  unfold listItem?
  split
  · simp
  · simp
  · rename_i halone hblank
    refine iff_of_true rfl ?_
    rintro (rfl | ⟨rest, rfl⟩)
    · exact halone rfl
    · exact hblank rest rfl

theorem coerce_of_listItem? {chars text : List Char} (h : listItem? chars = some text) :
    coerce text = coerce (chars.drop 1) := by
  unfold listItem? at h
  split at h
  · obtain rfl := Option.some.inj h
    rfl
  · rename_i rest
    obtain rfl := Option.some.inj h
    have hblank : trim (' ' :: rest) = trim rest := trim_cons_blank (by decide) rest
    rw [List.drop_succ_cons, List.drop_zero, coerce_trim, ← coerce_trim (' ' :: rest), hblank,
      coerce_trim]
  · cases h

theorem IsEntry.splitAtFirst (h : IsEntry line key value) : ∃ before after,
    Text.splitAtFirst ':' (trim line) = some (before, after) ∧ key = String.ofList (trim before) ∧
      value = trim after := by
  obtain ⟨before, after, htrim, hcolon, hkey, hvalue⟩ := h.parts
  exact ⟨before, after, htrim ▸ splitAtFirst_append hcolon after, hkey, hvalue⟩

theorem append_of_splitAtFirst {separator : Char} {chars before after : List Char}
    (h : Text.splitAtFirst separator chars = some (before, after)) :
    chars = before ++ separator :: after ∧ separator ∉ before := by
  induction chars generalizing before with
  | nil => cases h
  | cons char chars ih =>
      rw [Text.splitAtFirst] at h
      split at h
      · rename_i hsame
        obtain ⟨rfl, rfl⟩ := Prod.mk.inj (Option.some.inj h)
        exact ⟨by rw [hsame]; rfl, List.not_mem_nil⟩
      · rename_i hne
        obtain ⟨⟨front, rest⟩, hrest, heq⟩ := Option.map_eq_some_iff.mp h
        obtain ⟨rfl, rfl⟩ := Prod.mk.inj heq
        obtain ⟨rfl, hfront⟩ := ih hrest
        exact ⟨rfl, by simp [Ne.symm hne, hfront]⟩

-- The four things that a line can be.
theorem ofChars_of_isSilent (h : IsSilent line) : HeaderLine.ofChars line = .ignored := by
  have hstart : ((trim line).isEmpty || (trim line).head? == some '#') = true := by
    simpa [IsSilent] using h
  simp only [HeaderLine.ofChars, hstart, if_true]

theorem ofChars_of_not_isSilent (h : ¬ IsSilent line) : HeaderLine.ofChars line =
    match listItem? (trim line) with
    | some rest => .item rest
    | none =>
      match Text.splitAtFirst ':' (trim line) with
      | none => .other
      | some (key, value) =>
        if (trim key).isEmpty then .other else .entry (trim key) (trim value) := by
  have hstart : ¬ ((trim line).isEmpty || (trim line).head? == some '#') = true := by
    simpa [IsSilent] using h
  exact if_neg hstart

theorem ofChars_of_isItem (hspoken : ¬ IsSilent line) (h : IsItem line) :
    ∃ text, HeaderLine.ofChars line = .item text ∧ coerce text = itemValue line := by
  cases hitem : listItem? (trim line) with
  | none => exact absurd h ((listItem?_eq_none_iff _).mp hitem)
  | some text =>
      refine ⟨text, ?_, coerce_of_listItem? hitem⟩
      simp only [ofChars_of_not_isSilent hspoken, hitem]

theorem ofChars_of_isEntry (hspoken : ¬ IsSilent line) (h : IsEntry line key value) :
    HeaderLine.ofChars line = .entry key.toList value := by
  have hitem := (listItem?_eq_none_iff (trim line)).mpr h.notItem
  obtain ⟨before, after, hsplit, rfl, rfl⟩ := h.splitAtFirst
  have hnamed : (trim before).isEmpty = false := by
    rw [Bool.eq_false_iff, ne_eq, List.isEmpty_iff]
    intro hempty
    exact h.named (by rw [hempty])
  simp only [ofChars_of_not_isSilent hspoken, hitem, hsplit, hnamed, Bool.false_eq_true, if_false,
    String.toList_ofList]

theorem ofChars_of_neither (hspoken : ¬ IsSilent line) (hitem : ¬ IsItem line)
    (hentry : ∀ key value, ¬ IsEntry line key value) : HeaderLine.ofChars line = .other := by
  have hnone := (listItem?_eq_none_iff (trim line)).mpr hitem
  rw [ofChars_of_not_isSilent hspoken, hnone]
  cases hsplit : Text.splitAtFirst ':' (trim line) with
  | none => rfl
  | some parts =>
      obtain ⟨before, after⟩ := parts
      obtain ⟨htrim, hcolon⟩ := append_of_splitAtFirst hsplit
      refine if_pos (Decidable.byContradiction fun hnamed => ?_)
      refine hentry (String.ofList (trim before)) (trim after)
        ⟨hitem, fun hempty => hnamed ?_, before, after, htrim, hcolon, rfl, rfl⟩
      rw [List.isEmpty_iff, ← String.toList_ofList (l := trim before), hempty]
      rfl

section

variable {progress : Progress}

theorem step_of_isSilent (h : IsSilent line) (progress : Progress) :
    progress.step line = progress := by
  simp only [Progress.step, ofChars_of_isSilent h]

theorem step_of_isItem (hspoken : ¬ IsSilent line) (h : IsItem line) (progress : Progress) :
    progress.step line =
      match progress.openKey with
      | none => progress
      | some key =>
        ⟨progress.fields.insert key (extendList (itemValue line) (progress.fields.get? key)),
          some key⟩ := by
  obtain ⟨text, hread, hvalue⟩ := ofChars_of_isItem hspoken h
  simp only [Progress.step, hread, hvalue]
  cases progress.openKey <;> rfl

-- An entry puts its own value in place of any older one, and stays open for items when
-- they could make a list of it.
theorem step_of_isEntry (hspoken : ¬ IsSilent line) (h : IsEntry line key value)
    (progress : Progress) : progress.step line =
      ⟨progress.fields.insert key (fieldValue value []),
        if value = [] ∨ value = ['[', ']'] then some key else none⟩ := by
  simp only [Progress.step, ofChars_of_isEntry hspoken h, String.ofList_toList, fieldValue]
  by_cases hempty : value = []
  · simp [hempty]
  · by_cases hlist : value = ['[', ']']
    · simp [hlist]
    · simp [hempty, hlist]

theorem step_of_neither (hspoken : ¬ IsSilent line) (hitem : ¬ IsItem line)
    (hentry : ∀ key value, ¬ IsEntry line key value) (progress : Progress) :
    progress.step line = ⟨progress.fields, none⟩ := by
  simp only [Progress.step, ofChars_of_neither hspoken hitem hentry]

-- A line that is no item closes the field of every key but its own.
theorem step_closes (hspoken : ¬ IsSilent line) (hitem : ¬ IsItem line)
    (hentry : ∀ value, ¬ IsEntry line key value) (progress : Progress) :
    Keyed.get? key (progress.step line).fields = Keyed.get? key progress.fields ∧
      (progress.step line).openKey ≠ some key := by
  by_cases hother : ∃ other value, IsEntry line other value
  · obtain ⟨other, value, hother⟩ := hother
    have hne : key ≠ other := by
      rintro rfl
      exact hentry value hother
    rw [step_of_isEntry hspoken hother, Keyed.get?_insert, if_neg hne]
    refine ⟨rfl, ?_⟩
    dsimp only
    split
    · exact fun heq => hne (Option.some.inj heq).symm
    · exact Option.some_ne_none key ∘ Eq.symm
  · have hneither : ∀ key value, ¬ IsEntry line key value :=
      fun other value h => hother ⟨other, value, h⟩
    rw [step_of_neither hspoken hitem hneither]
    exact ⟨rfl, Option.some_ne_none key ∘ Eq.symm⟩

-- A closed field stays as it is until its key comes again.
theorem step_apart (hspoken : ¬ IsSilent line) (hclosed : progress.openKey ≠ some key)
    (hentry : ∀ value, ¬ IsEntry line key value) :
    Keyed.get? key (progress.step line).fields = Keyed.get? key progress.fields ∧
      (progress.step line).openKey ≠ some key := by
  by_cases hitem : IsItem line
  · rw [step_of_isItem hspoken hitem]
    split
    · exact ⟨rfl, hclosed⟩
    · rename_i other heq
      rw [heq] at hclosed
      have hne : key ≠ other := fun h => hclosed (congrArg some h.symm)
      rw [Keyed.get?_insert, if_neg hne]
      exact ⟨rfl, hclosed⟩
  · exact step_closes hspoken hitem hentry progress

theorem get?_foldl_step_apart (hspoken : ∀ line ∈ lines, ¬ IsSilent line)
    (hentry : ∀ line ∈ lines, ∀ value, ¬ IsEntry line key value)
    (hclosed : progress.openKey ≠ some key) :
    Keyed.get? key (lines.foldl Progress.step progress).fields =
      Keyed.get? key progress.fields := by
  induction lines generalizing progress with
  | nil => rfl
  | cons line lines ih =>
      obtain ⟨hline, hlines⟩ := List.forall_mem_cons.mp hspoken
      obtain ⟨hfirst, hrest⟩ := List.forall_mem_cons.mp hentry
      obtain ⟨hget, hnext⟩ := step_apart hline hclosed hfirst
      rw [List.foldl_cons, ih hlines hrest hnext, hget]

-- Lines below the items of a field, the first of which closes it if it is still open.
theorem get?_foldl_step_below (hspoken : ∀ line ∈ lines, ¬ IsSilent line)
    (hentry : ∀ line ∈ lines, ∀ value, ¬ IsEntry line key value)
    (hnext : ∀ next ∈ lines.head?, ¬ IsItem next) (progress : Progress) :
    Keyed.get? key (lines.foldl Progress.step progress).fields =
      Keyed.get? key progress.fields := by
  cases lines with
  | nil => rfl
  | cons line lines =>
      obtain ⟨hline, hlines⟩ := List.forall_mem_cons.mp hspoken
      obtain ⟨hfirst, hrest⟩ := List.forall_mem_cons.mp hentry
      obtain ⟨hget, hclosed⟩ := step_closes hline (hnext line rfl) hfirst progress
      rw [List.foldl_cons, get?_foldl_step_apart hlines hrest hclosed, hget]

theorem extendList_fieldValue (hopen : value = [] ∨ value = ['[', ']']) (item : Value)
    (items : List Value) :
    extendList item (some (fieldValue value items)) = fieldValue value (items ++ [item]) := by
  have hplain : ¬ (value ≠ [] ∧ value ≠ ['[', ']']) := by
    rcases hopen with rfl | rfl <;> simp
  rcases List.eq_nil_or_concat items with rfl | ⟨front, last, rfl⟩
  · simp only [fieldValue, if_neg hplain]
    rcases hopen with rfl | rfl <;> rfl
  · simp [fieldValue, if_neg hplain, extendList]

-- The items right below an open entry are its list, in their order.
theorem foldl_step_items (hopen : value = [] ∨ value = ['[', ']'])
    (hspoken : ∀ item ∈ items, ¬ IsSilent item) (hitems : ∀ item ∈ items, IsItem item)
    (hkey : progress.openKey = some key) {done : List Value}
    (hdone : Keyed.get? key progress.fields = some (fieldValue value done)) :
    Keyed.get? key (items.foldl Progress.step progress).fields =
      some (fieldValue value (done ++ items.map itemValue)) := by
  induction items generalizing progress done with
  | nil => simpa using hdone
  | cons item items ih =>
      obtain ⟨hitem, hitems⟩ := List.forall_mem_cons.mp hitems
      obtain ⟨hfirst, hspoken⟩ := List.forall_mem_cons.mp hspoken
      have hstep := step_of_isItem hfirst hitem progress
      simp only [hkey, hdone, extendList_fieldValue hopen] at hstep
      have hget : Keyed.get? key (progress.step item).fields =
          some (fieldValue value (done ++ [itemValue item])) := by
        rw [hstep]
        exact Keyed.get?_insert_self _ _ _
      rw [List.foldl_cons, ih hspoken hitems (by rw [hstep]) hget, List.map_cons, List.append_assoc]
      rfl

end

theorem get?_of_lastEntry (hspoken : ∀ line ∈ lines, ¬ IsSilent line)
    (h : LastEntry lines key value items) :
    Keyed.get? key (lines.foldl Progress.step ⟨[], none⟩).fields =
      some (fieldValue value (items.map itemValue)) := by
  obtain ⟨above, line, below, rfl, hentry, hitems, hnext, hbelow⟩ := h
  simp only [List.forall_mem_append, List.forall_mem_cons] at hspoken
  obtain ⟨-, hline, hspokenItems, hspokenBelow⟩ := hspoken
  rw [List.foldl_append, List.foldl_cons, List.foldl_append]
  generalize above.foldl Progress.step ⟨[], none⟩ = progress
  have hstep := step_of_isEntry hline hentry progress
  have hget : Keyed.get? key (progress.step line).fields = some (fieldValue value []) := by
    rw [hstep]
    exact Keyed.get?_insert_self _ _ _
  rw [get?_foldl_step_below hspokenBelow hbelow hnext]
  by_cases hopen : value = [] ∨ value = ['[', ']']
  · rw [if_pos hopen] at hstep
    rw [foldl_step_items hopen hspokenItems hitems (by rw [hstep]) hget, List.nil_append]
  · -- the value is complete, and no item adds to it
    have hclosed : (progress.step line).openKey ≠ some key := by
      rw [hstep, if_neg hopen]
      exact Option.some_ne_none key ∘ Eq.symm
    have hnone : ∀ item ∈ items, ∀ value, ¬ IsEntry item key value :=
      fun item hm _ hentry => hentry.notItem (hitems item hm)
    rw [get?_foldl_step_apart hspokenItems hnone hclosed, hget]
    rw [not_or] at hopen
    simp only [fieldValue, if_pos (show value ≠ [] ∧ value ≠ ['[', ']'] from hopen)]

-- A key that has an entry has a last one.
theorem exists_lastEntry (h : ∃ line ∈ lines, ∃ value, IsEntry line key value) :
    ∃ value items, LastEntry lines key value items := by
  induction lines with
  | nil =>
      obtain ⟨line, hline, -⟩ := h
      exact absurd hline List.not_mem_nil
  | cons line lines ih =>
      by_cases hrest : ∃ line ∈ lines, ∃ value, IsEntry line key value
      · obtain ⟨value, items, above, last, below, rfl, hlast⟩ := ih hrest
        exact ⟨value, items, line :: above, last, below, rfl, hlast⟩
      · have hnone : ∀ other ∈ lines, ∀ value, ¬ IsEntry other key value :=
          fun other hother value h => hrest ⟨other, hother, value, h⟩
        obtain ⟨other, hother, value, hentry⟩ := h
        obtain rfl : other = line :=
          (List.mem_cons.mp hother).resolve_right fun hm => hnone other hm value hentry
        refine ⟨value, lines.takeWhile (IsItem ·), [], other, lines.dropWhile (IsItem ·), ?_,
          hentry, fun item hm => ?_, fun next hm => ?_, fun below hm => ?_⟩
        · rw [List.nil_append, List.takeWhile_append_dropWhile]
        · simpa using List.mem_takeWhile_imp hm
        · have hnot := List.head?_dropWhile_not (fun item => decide (IsItem item)) lines
          rw [Option.mem_def.mp hm] at hnot
          simpa using hnot
        · exact hnone below ((List.dropWhile_suffix _).subset hm)

theorem readFields_filter (lines : List (List Char)) :
    readFields (lines.filter fun line => ¬ IsSilent line) = readFields lines := by
  have hstep : (fun progress line => if decide (¬ IsSilent line) = true then
      Progress.step progress line else progress) = Progress.step := by
    funext progress line
    by_cases h : IsSilent line
    · simp [h, step_of_isSilent h]
    · simp [h]
  rw [readFields, readFields, List.foldl_filter, hstep]

theorem sorted_readFields (lines : List (List Char)) : (readFields lines).Sorted := by
  suffices grow : ∀ progress : Progress, progress.fields.Sorted →
      (lines.foldl Progress.step progress).fields.Sorted from grow ⟨[], none⟩ .nil
  induction lines with
  | nil => exact fun _ h => h
  | cons line lines ih =>
      refine fun progress h => ih _ ?_
      unfold Progress.step
      split
      · exact h
      · split
        · exact h
        · exact h.insert _ _
      · exact h
      · dsimp only
        split
        · exact h.insert _ _
        · split <;> exact h.insert _ _

theorem not_isSilent_of_mem : ∀ line ∈ lines.filter fun line => ¬ IsSilent line,
    ¬ IsSilent line := by
  intro line hline
  simpa using (List.mem_filter.mp hline).2

theorem get?_readFields_of_lastEntry
    (h : LastEntry (lines.filter fun line => ¬ IsSilent line) key value items) :
    Keyed.get? key (readFields lines) = some (fieldValue value (items.map itemValue)) := by
  rw [← readFields_filter, readFields, get?_of_lastEntry not_isSilent_of_mem h]

theorem exists_isEntry_of_get? {found : Value}
    (h : Keyed.get? key (readFields lines) = some found) :
    ∃ line ∈ lines.filter fun line => ¬ IsSilent line, ∃ value, IsEntry line key value := by
  by_contra hnot
  simp only [not_exists, not_and] at hnot
  have hclosed : (⟨[], none⟩ : Progress).openKey ≠ some key := nofun
  rw [← readFields_filter, readFields,
    get?_foldl_step_apart not_isSilent_of_mem hnot hclosed] at h
  cases h

-- The fields of a header are the keys of its entries, each once. The last entry of a key
-- and the items right below it decide its value, and nothing else does.
theorem get?_readFields_iff (lines : List (List Char)) :
    let spoken := lines.filter fun line => ¬ IsSilent line
    (readFields lines).Sorted ∧
      (∀ key, key ∈ Keyed.keys (readFields lines) ↔
        ∃ line ∈ spoken, ∃ value, IsEntry line key value) ∧
      ∀ key found, Keyed.get? key (readFields lines) = some found ↔
        ∃ value items, LastEntry spoken key value items ∧
          found = fieldValue value (items.map itemValue) := by
  refine ⟨sorted_readFields lines, fun key => ?keys, fun key found => ⟨fun h => ?decided, ?decides⟩⟩
  case keys =>
    rw [Keyed.mem_keys_iff]
    constructor
    · rintro ⟨found, hfound⟩
      exact exists_isEntry_of_get? hfound
    · intro h
      obtain ⟨value, items, h⟩ := exists_lastEntry h
      exact ⟨_, get?_readFields_of_lastEntry h⟩
  case decided =>
    obtain ⟨value, items, hlast⟩ := exists_lastEntry (exists_isEntry_of_get? h)
    have hfound := h.symm.trans (get?_readFields_of_lastEntry hlast)
    exact ⟨value, items, hlast, Option.some.inj hfound⟩
  case decides =>
    rintro ⟨value, items, hlast, rfl⟩
    exact get?_readFields_of_lastEntry hlast

-- A comment does not end a list, and an item below another line belongs to no key.
example : readFields ["tags: []".toList, "- old".toList, "tags:".toList, "- a".toList,
    "# more".toList, "- b".toList, "plain".toList, "- c".toList] =
      [("tags", .array [.string "a", .string "b"])] := by
  cbv

end FrontMatter

end NoteVault
