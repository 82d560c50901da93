import NoteVault.Proofs.FrontMatter.InlineForm
import NoteVault.Proofs.KnowledgeBase.Record
import NoteVault.Proofs.Text.Line
import NoteVault.Proofs.Time.RoundTrip

namespace NoteVault

open Json Text

open FrontMatter

-- A text as a header keeps it, with blanks for its line ends.
def singleLine (text : String) : String :=
  String.ofList (text.toList.map fun char => if char = '\n' ∨ char = '\r' then ' ' else char)

-- A text without line ends.
def IsSingleLine (text : String) : Prop :=
  ∀ char ∈ text.toList, char ≠ '\n' ∧ char ≠ '\r'

instance (text : String) : Decidable (IsSingleLine text) :=
  List.decidableBAll (fun char => char ≠ '\n' ∧ char ≠ '\r') text.toList

theorem isSingleLine_singleLine (text : String) : IsSingleLine (singleLine text) := by
  intro char h
  simp only [singleLine, String.toList_ofList, List.mem_map] at h
  obtain ⟨other, -, rfl⟩ := h
  split
  · decide
  · rename_i hne
    exact not_or.mp hne

theorem singleLine_eq {text : String} (h : IsSingleLine text) : singleLine text = text := by
  have hmap : text.toList.map (fun char => if char = '\n' ∨ char = '\r' then ' ' else char) =
      text.toList := by
    refine (List.map_congr_left fun char hc => ?_).trans (List.map_id _)
    rw [if_neg (not_or.mpr (h char hc))]
    rfl
  rw [singleLine, hmap, String.ofList_toList]

theorem isSingleLine_normalize {raw : String} (h : IsSingleLine raw) :
    IsSingleLine (Path.normalize raw) := by
  intro char hc
  by_cases hslash : char = '/'
  · subst hslash
    decide
  · exact h char (Path.mem_of_mem_normalize hslash hc)

theorem not_break_of_mem_padded {width value : Nat} {char : Char}
    (h : char ∈ Time.padded width value) : char ≠ '\n' ∧ char ≠ '\r' := by
  have hdigit := Time.isDigit_of_mem_padded h
  constructor
  · intro heq
    exact absurd (heq ▸ hdigit) (by decide)
  · intro heq
    exact absurd (heq ▸ hdigit) (by decide)

theorem not_break_of_mem_signed {width value : Nat} {char : Char} (sign : Char)
    (hsign : sign ≠ '\n' ∧ sign ≠ '\r') (h : char ∈ sign :: Time.padded width value) :
    char ≠ '\n' ∧ char ≠ '\r' := by
  rcases List.mem_cons.mp h with rfl | h
  · exact hsign
  · exact not_break_of_mem_padded h

theorem not_break_of_mem_fractionChars {nanosecond : Nat} {char : Char}
    (h : char ∈ Time.fractionChars nanosecond) : char ≠ '\n' ∧ char ≠ '\r' := by
  rw [Time.fractionChars] at h
  split at h
  · exact absurd h List.not_mem_nil
  · split at h
    · exact not_break_of_mem_signed '.' (by decide) h
    · split at h
      · exact not_break_of_mem_signed '.' (by decide) h
      · exact not_break_of_mem_signed '.' (by decide) h

-- The written form of an instant has digits and signs only.
theorem isSingleLine_text (instant : Time.Instant) : IsSingleLine instant.text := by
  have hyear : ∀ char ∈ Time.yearChars instant.date.year, char ≠ '\n' ∧ char ≠ '\r' := by
    intro char h
    rw [Time.yearChars] at h
    split at h
    · exact not_break_of_mem_padded h
    · refine not_break_of_mem_signed _ ?_ h
      split <;> decide
  intro char h
  simp only [Time.Instant.text, Time.Instant.chars, String.toList_ofList, List.mem_append] at h
  rcases h with ((((((h | h) | h) | h) | h) | h) | h) | h
  · exact hyear char h
  · exact not_break_of_mem_signed '-' (by decide) h
  · exact not_break_of_mem_signed '-' (by decide) h
  · exact not_break_of_mem_signed 'T' (by decide) h
  · exact not_break_of_mem_signed ':' (by decide) h
  · exact not_break_of_mem_signed ':' (by decide) h
  · exact not_break_of_mem_fractionChars h
  · obtain rfl := List.mem_singleton.mp h
    decide

-- What the names of header fields are made of.
def IsFieldName (key : String) : Prop :=
  key.toList ≠ [] ∧ ∀ char ∈ key.toList, isBlank char = false ∧ char ∉ [':', '#', '-', '\n', '\r']

instance (key : String) : Decidable (IsFieldName key) :=
  have := List.decidableBAll
    (fun char => isBlank char = false ∧ char ∉ [':', '#', '-', '\n', '\r']) key.toList
  inferInstanceAs (Decidable (key.toList ≠ [] ∧ _))

-- A header line without its line end.
def headerChars (key value : String) : List Char :=
  key.toList ++ ':' :: ' ' :: '"' :: ((singleLine value).toList ++ ['"'])

variable {key value : String}

theorem toList_headerLine (key value : String) :
    (headerLine key value).toList = headerChars key value ++ ['\n'] := by
  simp [headerLine, headerQuote, headerChars, singleLine]

theorem ne_of_mem_headerChars (hkey : IsFieldName key) (value : String) :
    ∀ char ∈ headerChars key value, char ≠ '\n' ∧ char ≠ '\r' := by
  intro char h
  simp only [headerChars, List.mem_append, List.mem_cons, List.not_mem_nil, or_false] at h
  rcases h with h | rfl | rfl | rfl | h | rfl
  · have hout := (hkey.2 char h).2
    simp only [List.mem_cons, not_or] at hout
    exact ⟨hout.2.2.2.1, hout.2.2.2.2.1⟩
  · decide
  · decide
  · decide
  · exact isSingleLine_singleLine value char h
  · decide

theorem ofChars_headerChars (hkey : IsFieldName key) (value : String) :
    HeaderLine.ofChars (headerChars key value) =
      .entry key.toList ('"' :: ((singleLine value).toList ++ ['"'])) := by
  obtain ⟨hne, hchars⟩ := hkey
  obtain ⟨first, rest, hkey⟩ := List.exists_cons_of_ne_nil hne
  have hfirst := hchars first (by simp [hkey])
  simp only [List.mem_cons, not_or] at hfirst
  have hline : trim (headerChars key value) = headerChars key value := by
    refine trim_eq_self ?_ ?_
    · simpa [headerChars, hkey] using hfirst.1
    · intro char hc
      have hquote : char = '"' := by
        simpa [headerChars, List.getLast?_append, List.getLast?_cons, eq_comm] using hc
      rw [hquote]
      decide
  have hcolon : ':' ∉ key.toList := by
    intro h
    exact (hchars ':' h).2 (by decide)
  have hname : trim key.toList = key.toList := by
    refine trim_eq_self (fun char hc => (hchars char (List.mem_of_head? hc)).1)
      fun char hc => (hchars char (List.mem_of_getLast? hc)).1
  have hitem : listItem? (headerChars key value) = none := by
    rw [headerChars, hkey, List.cons_append, listItem?.eq_def]
    split
    · exact absurd (List.cons.inj ‹_›).1 hfirst.2.2.2.1
    · exact absurd (List.cons.inj ‹_›).1 hfirst.2.2.2.1
    · rfl
  have hsplit := splitAtFirst_append hcolon (' ' :: '"' :: ((singleLine value).toList ++ ['"']))
  have hstart : ((headerChars key value).isEmpty || (headerChars key value).head? == some '#') =
      false := by
    simp [headerChars, hkey, hfirst.2.2.1]
  simp only [HeaderLine.ofChars, hline, hstart, hitem, Bool.false_eq_true, if_false]
  rw [headerChars, hsplit]
  simp only [hname, trim_cons_blank (show isBlank ' ' = true by decide),
    trim_between (show isBlank '"' = false by decide) (show isBlank '"' = false by decide)]
  rw [if_neg (by simpa using hne)]

theorem step_headerChars (hkey : IsFieldName key) (value : String) (progress : Progress) :
    progress.step (headerChars key value) =
      ⟨progress.fields.insert key (.string (singleLine value)), none⟩ := by
  have hlong : ('"' :: ((singleLine value).toList ++ ['"'])) ≠ ['[', ']'] := by
    intro h
    exact absurd (List.cons.inj h).1 (by decide)
  simp only [Progress.step, ofChars_headerChars hkey, String.ofList_toList, List.isEmpty_cons,
    Bool.false_eq_true, if_false]
  rw [if_neg hlong, coerce_quoted (by decide), String.ofList_toList]

theorem headerChars_ne_delimiter (key value : String) : headerChars key value ≠ delimiter := by
  intro h
  have hcolon : ':' ∈ headerChars key value := by simp [headerChars]
  rw [h] at hcolon
  exact absurd hcolon (by decide)

-- Header lines with their line ends, without the delimiters around them.
def headerText (entries : List (String × String)) : List Char :=
  entries.flatMap fun entry => headerChars entry.1 entry.2 ++ ['\n']

section

variable {entries : List (String × String)} (hkeys : ∀ entry ∈ entries, IsFieldName entry.1)
include hkeys

theorem splitAtDelimiter_headerText (body : List Char) :
    splitAtDelimiter (pieces (headerText entries ++ (delimiter ++ '\n' :: body))) =
      some (entries.map fun entry => headerChars entry.1 entry.2, pieces body) := by
  induction entries with
  | nil =>
      have hdelimiter : withoutLineEnd (delimiter ++ ['\n']) = delimiter := by decide
      rw [headerText, List.flatMap_nil, List.nil_append, pieces_line (by decide), splitAtDelimiter,
        hdelimiter, if_pos rfl]
      rfl
  | cons entry entries ih =>
      obtain ⟨hkey, hkeys⟩ := List.forall_mem_cons.mp hkeys
      have hline := ne_of_mem_headerChars hkey entry.2
      have hwithout : withoutLineEnd (headerChars entry.1 entry.2 ++ ['\n']) =
          headerChars entry.1 entry.2 := withoutLineEnd_line fun h => (hline _ h).2 rfl
      rw [headerText, List.flatMap_cons, List.append_assoc, List.append_assoc, List.singleton_append,
        pieces_line fun h => (hline _ h).1 rfl, splitAtDelimiter, hwithout,
        if_neg (headerChars_ne_delimiter _ _)]
      rw [headerText] at ih
      simp only [ih hkeys, List.map_cons]

theorem foldl_step_headerChars (progress : Progress) :
    ((entries.map fun entry => headerChars entry.1 entry.2).foldl Progress.step progress).fields =
      (entries.map fun entry => (entry.1, Value.string (singleLine entry.2))).foldl
        (fun fields entry => Keyed.insert entry.1 entry.2 fields) progress.fields := by
  induction entries generalizing progress with
  | nil => rfl
  | cons entry entries ih =>
      obtain ⟨hkey, hkeys⟩ := List.forall_mem_cons.mp hkeys
      rw [List.map_cons, List.foldl_cons, step_headerChars hkey, ih hkeys]
      rfl

-- A header of one-line texts defines those texts, and its body is what follows it.
theorem ofText_header {text : String} {body : List Char}
    (htext : text.toList =
      delimiter ++ '\n' :: (headerText entries ++ (delimiter ++ '\n' :: body))) :
    Note.ofText text =
      ⟨Keyed.ofList (entries.map fun entry => (entry.1, .string (singleLine entry.2))),
        String.ofList body, text⟩ := by
  have hdelimiter : withoutLineEnd (delimiter ++ ['\n']) = delimiter := by decide
  have hsplit : splitHeader text.toList =
      some (entries.map fun entry => headerChars entry.1 entry.2, body) := by
    rw [htext, splitHeader, pieces_line (by decide)]
    simp only [hdelimiter, if_true, splitAtDelimiter_headerText hkeys, pieces_flatten]
  have hfields := foldl_step_headerChars hkeys ⟨[], none⟩
  simp only [Note.ofText, hsplit, FrontMatter.readFields, hfields]
  rfl

end

-- What a record has below its header.
def recordBody (rules : String) : String :=
  if (trimmed rules).isEmpty then "" else "\n" ++ trimmed rules ++ "\n"

theorem trimmed_recordBody (rules : String) : trimmed (recordBody rules) = trimmed rules := by
  rw [recordBody]
  split
  · rename_i hempty
    rw [String.isEmpty_iff.mp hempty]
    rfl
  · have hfeed : ∀ char ∈ ("\n" : String).toList, isBlank char = true :=
      List.forall_mem_singleton.mpr (by decide)
    simp only [trimmed, String.toList_append, String.toList_ofList]
    rw [List.append_assoc, trim_blanks hfeed hfeed, trim_trim]

namespace KnowledgeBase

-- The fields of a record as its header writes them.
def header (base : KnowledgeBase) : List (String × String) :=
  [("create_time", base.createTime.text), ("description", base.description),
    ("subfolder", base.subfolder)]

theorem toList_record (base : KnowledgeBase) :
    base.record.toList = delimiter ++ '\n' :: (headerText base.header ++
      (delimiter ++ '\n' :: (recordBody base.organizationRules).toList)) := by
  have hopen : ("---\n" : String).toList = delimiter ++ ['\n'] := rfl
  simp only [record, String.toList_append, toList_headerLine, hopen, List.append_assoc,
    List.cons_append, List.nil_append, recordBody, headerText, header, List.flatMap_cons,
    List.flatMap_nil]

-- The three fields of a record, read from its header.
theorem ofText_record (base : KnowledgeBase) :
    Note.ofText base.record =
      ⟨Keyed.insert "subfolder" (.string (singleLine base.subfolder))
          (Keyed.insert "description" (.string (singleLine base.description))
            (Keyed.insert "create_time" (.string (singleLine base.createTime.text)) [])),
        recordBody base.organizationRules, base.record⟩ := by
  have hkeys : ∀ entry ∈ base.header, IsFieldName entry.1 := by
    simp only [header, List.forall_mem_cons]
    exact ⟨by decide, by decide, by decide, fun _ h => nomatch h⟩
  simp only [ofText_header hkeys base.toList_record, String.ofList_toList, header, List.map_cons,
    List.map_nil, Keyed.ofList, List.foldl_cons, List.foldl_nil]

-- A record that was written is read back: texts of the header have blanks for
-- their line ends, the subfolder comes in normal form, the rules without the
-- blanks around them.
theorem ofRecord_record {base : KnowledgeBase}
    (htime : Time.Instant.ofText? base.createTime.text = some base.createTime)
    (hfolder : Path.normalize (singleLine base.subfolder) ≠ "") :
    ofRecord base.name base.record =
      .ok ⟨base.name, base.createTime, singleLine base.description,
        Path.normalize (singleLine base.subfolder), trimmed base.organizationRules⟩ := by
  have hempty : (Path.normalize (singleLine base.subfolder)).isEmpty = false := by
    rw [Bool.eq_false_iff]
    exact fun h => hfolder (String.isEmpty_iff.mp h)
  have hline : singleLine base.createTime.text = base.createTime.text :=
    singleLine_eq (isSingleLine_text base.createTime)
  have hget : ∀ key, Keyed.get? key (Note.ofText base.record).fields =
      if key = "subfolder" then some (.string (singleLine base.subfolder))
      else if key = "description" then some (.string (singleLine base.description))
      else if key = "create_time" then some (.string (singleLine base.createTime.text))
      else none := by
    intro key
    rw [ofText_record, Keyed.get?_insert, Keyed.get?_insert, Keyed.get?_insert, Keyed.get?_nil]
  have hbody : (Note.ofText base.record).body = recordBody base.organizationRules := by
    rw [ofText_record]
  have hcreated : createTimeOf base.name (Note.ofText base.record).fields = .ok base.createTime := by
    rw [createTimeOf, requiredText, hget, if_neg (by decide), if_neg (by decide), if_pos rfl]
    simp only [bind, Except.bind, hline, htime]
    rfl
  have hsubfolder : subfolderOf base.name (Note.ofText base.record).fields =
      .ok (Path.normalize (singleLine base.subfolder)) := by
    rw [subfolderOf, requiredText, hget, if_pos rfl]
    simp only [bind, Except.bind, hempty, Bool.false_eq_true, if_false]
    rfl
  have hdescription : optionalText "description" (Note.ofText base.record).fields =
      singleLine base.description := by
    rw [optionalText, hget, if_neg (by decide), if_pos rfl]
  simp only [ofRecord, bind, Except.bind, hcreated, hsubfolder, hdescription, hbody,
    trimmed_recordBody]
  rfl

-- A knowledge base whose record says the same when it is read again, in a subfolder
-- that it can own.
structure IsRecordable (base : KnowledgeBase) : Prop where
  clean : Path.Clean base.subfolder
  nonempty : base.subfolder ≠ ""
  line : IsSingleLine base.subfolder
  time : Time.Instant.ofText? base.createTime.text = some base.createTime

-- What the record of a knowledge base shows of it.
theorem IsRecordable.ofRecord {base : KnowledgeBase} (h : base.IsRecordable) : ∃ read,
    ofRecord base.name base.record = .ok read ∧ read.name = base.name ∧
      read.subfolder = base.subfolder ∧ read.IsRecordable := by
  have hfolder : Path.normalize (singleLine base.subfolder) = base.subfolder := by
    rw [singleLine_eq h.line, h.clean.normal]
  have hread := ofRecord_record h.time (by rw [hfolder]; exact h.nonempty)
  rw [hfolder] at hread
  exact ⟨_, hread, rfl, rfl, h.clean, h.nonempty, h.line, h.time⟩

-- A knowledge base that says nothing but where its notes are.
def bare (name subfolder : String) : KnowledgeBase :=
  ⟨name, ⟨⟨2024, 5, 17⟩, 8, 30, 0, 0⟩, "", subfolder, ""⟩

theorem isRecordable_bare {name subfolder : String} (hclean : Path.Clean subfolder)
    (hne : subfolder ≠ "") (hline : IsSingleLine subfolder) : (bare name subfolder).IsRecordable := by
  have htime : Time.Instant.ofText? (Time.Instant.mk ⟨2024, 5, 17⟩ 8 30 0 0).text =
      some ⟨⟨2024, 5, 17⟩, 8, 30, 0, 0⟩ := Time.Instant.ofText?_text (by decide) (by decide)
  exact ⟨hclean, hne, hline, htime⟩

theorem ofRecord_bare {name subfolder : String} (h : (bare name subfolder).IsRecordable) :
    ofRecord name (bare name subfolder).record = .ok (bare name subfolder) := by
  have hline : singleLine subfolder = subfolder := singleLine_eq h.line
  have hfolder : Path.normalize (singleLine subfolder) = subfolder := hline.symm ▸ h.clean.normal
  have hne : Path.normalize (singleLine subfolder) ≠ "" := by
    rw [hfolder]
    exact h.nonempty
  have hread := ofRecord_record h.time hne
  simp only [bare, hfolder] at hread
  exact hread

end KnowledgeBase

end NoteVault
