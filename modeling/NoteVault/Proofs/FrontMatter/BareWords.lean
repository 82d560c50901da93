import NoteVault.Proofs.FrontMatter.InlineForm

namespace NoteVault.FrontMatter

open Json Text

-- The quote that is open after one more character.
def nextQuote : Option Char → Char → Option Char
  | some mark, char => if char = mark then none else some mark
  | none, char => if isQuote char then some char else none

-- The quote that a text leaves open, an apostrophe inside a word counted like any other.
def openQuote (quote : Option Char) (text : List Char) : Option Char :=
  text.foldl nextQuote quote

-- A text without the marks of an array.
def IsUnmarked (text : List Char) : Prop :=
  ∀ char ∈ text, char ≠ ',' ∧ char ≠ '[' ∧ char ≠ ']'

instance (text : List Char) : Decidable (IsUnmarked text) :=
  List.decidableBAll (fun char => char ≠ ',' ∧ char ≠ '[' ∧ char ≠ ']') text

-- A word that needs no quotes where it stands alone.
structure IsBareWord (word : List Char) : Prop where
  ne_nil : word ≠ []
  trimmed : trim word = word
  unmarked : IsUnmarked word
  unquoted : ∀ char ∈ word.head?, isQuote char = false
  itself : coerce word = .string (String.ofList word)

def bareArray (words : List (List Char)) : List Char :=
  '[' :: (List.intercalate [',', ' '] words ++ [']'])

def joinFirst (word : List Char) : List (List Char) → List (List Char)
  | [] => [word]
  | run :: runs => (word ++ ',' :: ' ' :: run) :: runs

-- The words of an array with those joined that a quote holds together. A quote is open
-- before the first word or not.
def wordRuns : Option Char → List (List Char) → List (List Char)
  | _, [] => []
  | quote, word :: words =>
    match openQuote quote word with
    | none => word :: wordRuns none words
    | some mark => joinFirst word (wordRuns (some mark) words)

-- Parts of an array as they are cut, each but the first after a blank.
def spaced : List (List Char) → List (List Char)
  | [] => []
  | run :: runs => run :: runs.map (' ' :: ·)

variable {word other : List Char} {words : List (List Char)} {quote : Option Char} {depth : Int}

theorem joinFirst_ne_nil (word : List Char) (runs : List (List Char)) : joinFirst word runs ≠ [] := by
  cases runs <;> simp [joinFirst]

theorem wordRuns_ne_nil (hne : words ≠ []) (quote : Option Char) : wordRuns quote words ≠ [] := by
  cases words with
  | nil => exact absurd rfl hne
  | cons word words =>
      rw [wordRuns]
      split
      · exact List.cons_ne_nil _ _
      · exact joinFirst_ne_nil _ _

theorem isQuote_of_nextQuote {char next : Char} (hquote : ∀ mark ∈ quote, isQuote mark = true)
    (h : nextQuote quote char = some next) : isQuote next = true := by
  cases quote with
  | none =>
      by_cases hchar : isQuote char = true
      · rw [nextQuote, if_pos hchar] at h
        exact Option.some.inj h ▸ hchar
      · rw [nextQuote, if_neg hchar] at h
        cases h
  | some mark =>
      by_cases hmark : char = mark
      · rw [nextQuote, if_pos hmark] at h
        cases h
      · rw [nextQuote, if_neg hmark] at h
        exact hquote next h

-- Nothing but a quote is ever open.
theorem isQuote_of_openQuote {text : List Char} {mark : Char}
    (hquote : ∀ mark ∈ quote, isQuote mark = true) (h : openQuote quote text = some mark) :
    isQuote mark = true := by
  induction text generalizing quote with
  | nil => exact hquote mark h
  | cons char text ih => exact ih (fun next hnext => isQuote_of_nextQuote hquote hnext) h

theorem uncut_of_unmarked {text : List Char} (h : IsUnmarked text) :
    Uncut quote depth text (openQuote quote text) depth := by
  induction text generalizing quote with
  | nil => exact .nil
  | cons char text ih =>
      obtain ⟨⟨hcomma, hopen, hclose⟩, htext⟩ := List.forall_mem_cons.mp h
      have hrest := @ih (nextQuote quote char) htext
      have hstep : openQuote quote (char :: text) = openQuote (nextQuote quote char) text := rfl
      rw [hstep]
      cases quote with
      | none =>
          by_cases hquote : isQuote char = true
          · rw [nextQuote, if_pos hquote] at hrest ⊢
            exact .opening hquote hrest
          · rw [nextQuote, if_neg hquote] at hrest ⊢
            refine .plain ?_ hrest
            simp only [isQuote, Bool.or_eq_true, beq_iff_eq, not_or] at hquote
            simp [marks, hquote.1, hquote.2, hcomma, hopen, hclose]
      | some mark =>
          by_cases hmark : char = mark
          · rw [nextQuote, if_pos hmark] at hrest ⊢
            exact hmark ▸ .closing hrest
          · rw [nextQuote, if_neg hmark] at hrest ⊢
            exact .quoted hmark hrest

-- No comma is cut where a quote is open.
theorem uncut_gap {mark : Char} (hmark : isQuote mark = true) (depth : Int) :
    Uncut (some mark) depth [',', ' '] (some mark) depth := by
  have hother : ∀ {char}, isQuote char = false → char ≠ mark := by
    rintro char hchar rfl
    rw [hmark] at hchar
    cases hchar
  exact .quoted (hother (by decide)) (.quoted (hother (by decide)) .nil)

theorem splitTopLevel_blank (depth : Int) (text : List Char) :
    splitTopLevel none depth (' ' :: text) = consPart ' ' (splitTopLevel none depth text) := by
  simp [splitTopLevel, show isQuote ' ' = false by decide]

theorem foldr_consPart_spaced (word : List Char) {runs : List (List Char)} (hne : runs ≠ []) :
    (word ++ [',', ' ']).foldr consPart (spaced runs) = spaced (joinFirst word runs) := by
  cases runs with
  | nil => exact absurd rfl hne
  | cons run runs => simp [spaced, joinFirst, consPart, foldr_consPart]

-- A comma is cut when no quote is open there, and else goes to the run of its word.
theorem splitTopLevel_words (hne : words ≠ [])
    (hwords : ∀ word ∈ words, IsUnmarked word)
    (hquote : ∀ mark ∈ quote, isQuote mark = true) :
    splitTopLevel quote 0 (List.intercalate [',', ' '] words) = spaced (wordRuns quote words) := by
  induction words generalizing quote with
  | nil => exact absurd rfl hne
  | cons word words ih =>
      obtain ⟨hword, hrest⟩ := List.forall_mem_cons.mp hwords
      have huncut : Uncut quote 0 word (openQuote quote word) 0 := uncut_of_unmarked hword
      cases words with
      | nil =>
          rw [List.intercalate_singleton, splitTopLevel_uncut huncut, wordRuns]
          cases openQuote quote word <;> rfl
      | cons next words =>
          have hnext : next :: words ≠ [] := List.cons_ne_nil _ _
          rw [List.intercalate_cons_cons, wordRuns]
          cases hopen : openQuote quote word with
          | none =>
              rw [hopen] at huncut
              have hnone : ∀ mark ∈ (none : Option Char), isQuote mark = true := by simp
              rw [List.append_assoc]
              simp only [List.cons_append, List.nil_append]
              rw [splitTopLevel_comma huncut, splitTopLevel_blank, ih hnext hrest hnone]
              obtain ⟨run, runs, hruns⟩ := List.exists_cons_of_ne_nil (wordRuns_ne_nil hnext none)
              simp [hruns, spaced, consPart]
          | some mark =>
              have hmark := isQuote_of_openQuote hquote hopen
              have hsome : ∀ other ∈ some mark, isQuote other = true := by
                simpa using hmark
              rw [hopen] at huncut
              rw [splitTopLevel_append (huncut.append (uncut_gap hmark 0)), ih hnext hrest hsome,
                foldr_consPart_spaced word (wordRuns_ne_nil hnext _)]

theorem keyword?_eq_none_of_comma (h : ',' ∈ word) : keyword? word = none := by
  have hne : ∀ {keyword : List Char}, ',' ∉ keyword → word ≠ keyword := by
    rintro keyword hnot rfl
    exact hnot h
  rw [keyword?, if_neg (hne (by decide)), if_neg (hne (by decide)), if_neg]
  exact not_or.mpr ⟨hne (by decide), hne (by decide)⟩

theorem unsignedNumber?_eq_none_of_comma (negative : Bool) (h : ',' ∈ word) :
    unsignedNumber? negative word = none := by
  -- the comma stands behind the digits
  have hrest : ',' ∈ word.dropWhile isDigit := by
    rw [← List.takeWhile_append_dropWhile (p := isDigit) (l := word)] at h
    refine (List.mem_append.mp h).resolve_left fun hdigits => ?_
    exact absurd (List.mem_takeWhile_imp hdigits) (by decide)
  simp only [unsignedNumber?]
  split
  · rfl
  split
  · rename_i hnil
    rw [hnil] at hrest
    cases hrest
  · rename_i fraction hpoint
    rw [hpoint] at hrest
    have hfraction : ',' ∈ fraction := by simpa using hrest
    have hall : fraction.all isDigit = false := List.all_eq_false.mpr ⟨',', hfraction, by decide⟩
    rw [if_pos (by simp [hall])]
  · rfl

theorem number?_eq_none_of_comma (h : ',' ∈ word) : number? word = none := by
  unfold number?
  split
  · exact unsignedNumber?_eq_none_of_comma true (by simpa using h)
  · exact unsignedNumber?_eq_none_of_comma false h

theorem coerce_plain {first : Char} {rest : List Char} (hquote : isQuote first = false)
    (hbracket : first ≠ '[') (htrim : trim (first :: rest) = first :: rest)
    (hkeyword : keyword? (first :: rest) = none) (hnumber : number? (first :: rest) = none) :
    coerce (first :: rest) = .string (String.ofList (first :: rest)) := by
  rw [coerce_eq, htrim, unquoted?_eq_none hquote, hkeyword, bracketed?_eq_none hbracket, hnumber]

theorem isBareWord_of_plain {first : Char} {rest : List Char} (hquote : isQuote first = false)
    (hmarks : IsUnmarked (first :: rest))
    (htrim : trim (first :: rest) = first :: rest)
    (hkeyword : keyword? (first :: rest) = none) (hnumber : number? (first :: rest) = none) :
    IsBareWord (first :: rest) where
  ne_nil := List.cons_ne_nil _ _
  trimmed := htrim
  unmarked := hmarks
  unquoted := by simpa using hquote
  itself :=
    coerce_plain hquote (hmarks first List.mem_cons_self).2.1 htrim hkeyword hnumber

-- Words with a comma between them are no keyword and no number.
theorem coerce_joined (hword : IsBareWord word) (hne : other ≠ []) (htrim : trim other = other) :
    trim (word ++ ',' :: ' ' :: other) = word ++ ',' :: ' ' :: other ∧
      coerce (word ++ ',' :: ' ' :: other) =
        .string (String.ofList (word ++ ',' :: ' ' :: other)) := by
  obtain ⟨first, rest, rfl⟩ := List.exists_cons_of_ne_nil hword.ne_nil
  have hquote : isQuote first = false := hword.unquoted first rfl
  have hbracket : first ≠ '[' := (hword.unmarked first List.mem_cons_self).2.1
  have hfirst : isBlank first = false :=
    @isBlank_of_mem_head?_trim (first :: rest) first (by rw [hword.trimmed]; rfl)
  have hlast : ∀ char ∈ other.getLast?, isBlank char = false := by
    rw [← htrim]
    exact isBlank_of_mem_getLast?_trim
  have hwhole : trim (first :: rest ++ ',' :: ' ' :: other) =
      first :: rest ++ ',' :: ' ' :: other := by
    refine trim_eq_self (by simpa using hfirst) ?_
    rw [List.getLast?_append, List.getLast?_cons_cons, List.getLast?_cons_of_ne_nil hne]
    obtain ⟨last, hsome⟩ := Option.isSome_iff_exists.mp (List.getLast?_isSome.mpr hne)
    rw [hsome] at hlast ⊢
    exact hlast
  have hcomma : ',' ∈ first :: rest ++ ',' :: ' ' :: other := by simp
  exact ⟨hwhole, coerce_plain hquote hbracket hwhole (keyword?_eq_none_of_comma hcomma)
    (number?_eq_none_of_comma hcomma)⟩

theorem wordRuns_read (hwords : ∀ word ∈ words, IsBareWord word) (quote : Option Char) :
    ∀ run ∈ wordRuns quote words,
      run ≠ [] ∧ trim run = run ∧ coerce run = .string (String.ofList run) := by
  induction words generalizing quote with
  | nil => simp [wordRuns]
  | cons word words ih =>
      obtain ⟨hword, hrest⟩ := List.forall_mem_cons.mp hwords
      have hself := And.intro hword.ne_nil (And.intro hword.trimmed hword.itself)
      rw [wordRuns]
      split
      · exact List.forall_mem_cons.mpr ⟨hself, ih hrest none⟩
      · rename_i mark _
        have hruns := ih hrest (some mark)
        cases hcase : wordRuns (some mark) words with
        | nil => simpa [joinFirst] using hself
        | cons run runs =>
            rw [hcase] at hruns
            obtain ⟨⟨hne, htrim, -⟩, hothers⟩ := List.forall_mem_cons.mp hruns
            exact List.forall_mem_cons.mpr ⟨⟨by simp, coerce_joined hword hne htrim⟩, hothers⟩

theorem map_coerce_spaced {runs : List (List Char)}
    (h : ∀ run ∈ runs, coerce run = .string (String.ofList run)) :
    (spaced runs).map coerce = runs.map fun run => .string (String.ofList run) := by
  have hblank : ∀ run, coerce (' ' :: run) = coerce run := by
    intro run
    rw [← coerce_trim, trim_cons_blank (by decide), coerce_trim]
  cases runs with
  | nil => rfl
  | cons run runs =>
      rw [spaced, List.map_cons, List.map_cons, List.map_map, h run List.mem_cons_self]
      congr 1
      refine List.map_congr_left fun run hr => ?_
      rw [Function.comp_apply, hblank, h run (List.mem_cons_of_mem _ hr)]

theorem trim_words_ne_nil (hne : words ≠ []) (hwords : ∀ word ∈ words, IsBareWord word) :
    trim (List.intercalate [',', ' '] words) ≠ [] := by
  obtain ⟨word, rest, rfl⟩ := List.exists_cons_of_ne_nil hne
  have hword := hwords word List.mem_cons_self
  have hsublist : ∀ char ∈ word, char ∈ List.intercalate [',', ' '] (word :: rest) := by
    intro char hchar
    cases rest with
    | nil => rwa [List.intercalate_singleton]
    | cons next rest => simp [List.intercalate_cons_cons, hchar]
  intro htrim
  have hblank := (trim_eq_nil_iff _).mp htrim
  have hempty := (trim_eq_nil_iff word).mpr fun char hc => hblank char (hsublist char hc)
  exact hword.ne_nil (hword.trimmed ▸ hempty)

-- Every word stands for itself exactly when none of them but the last leaves a quote open.
theorem wordRuns_eq_iff (words : List (List Char)) :
    wordRuns none words = words ↔ ∀ word ∈ words.dropLast, openQuote none word = none := by
  induction words with
  | nil => simp [wordRuns]
  | cons word words ih =>
      cases words with
      | nil =>
          rw [wordRuns]
          cases openQuote none word <;> simp [wordRuns, joinFirst]
      | cons next words =>
          rw [wordRuns, List.dropLast_cons_cons, List.forall_mem_cons]
          cases hopen : openQuote none word with
          | none => simp [ih]
          | some mark =>
              obtain ⟨run, runs, hruns⟩ :=
                List.exists_cons_of_ne_nil (wordRuns_ne_nil (List.cons_ne_nil next words) (some mark))
              simp [hruns, joinFirst]

-- An array of bare words is read as its runs of words. An apostrophe inside a word opens a
-- quote, so that the words after it are joined to it until the next one.
theorem coerce_bareArray (hne : words ≠ []) (hwords : ∀ word ∈ words, IsBareWord word) :
    coerce (bareArray words) =
        .array ((wordRuns none words).map fun run => .string (String.ofList run)) ∧
      (coerce (bareArray words) = .array (words.map fun word => .string (String.ofList word)) ↔
        ∀ word ∈ words.dropLast, openQuote none word = none) := by
  have hread : coerce (bareArray words) =
      .array ((wordRuns none words).map fun run => .string (String.ofList run)) := by
    have hsplit : splitTopLevel none 0 (List.intercalate [',', ' '] words) =
        spaced (wordRuns none words) :=
      splitTopLevel_words hne (fun word hw => (hwords word hw).unmarked) (by simp)
    have hvisible : (trim (List.intercalate [',', ' '] words)).isEmpty = false :=
      List.isEmpty_eq_false_iff.mpr (trim_words_ne_nil hne hwords)
    rw [bareArray, coerce_bracketed, hvisible, if_neg Bool.false_ne_true, hsplit,
      map_coerce_spaced fun run hr => (wordRuns_read hwords none run hr).2.2]
  refine ⟨hread, ?_⟩
  rw [hread, ← wordRuns_eq_iff, Value.array.injEq, List.map_inj_right]
  intro left right h
  exact String.ofList_injective (Value.string.inj h)

-- Two apostrophes in one word close each other, and the last word may leave one open.
theorem coerce_bareArray_closed :
    let words := ["rock'n'roll".toList, "stop".toList, "don't".toList]
    (∀ word ∈ words, IsBareWord word) ∧
      coerce (bareArray words) = .array [.string "rock'n'roll", .string "stop", .string "don't"] := by
  intro words
  have hwords : ∀ word ∈ words, IsBareWord word := by
    refine List.forall_mem_cons.mpr ⟨?_, List.forall_mem_cons.mpr ⟨?_, List.forall_mem_singleton.mpr ?_⟩⟩
    all_goals exact isBareWord_of_plain (by decide) (by decide) (by decide) (by decide) (by decide)
  have hclosed : ∀ word ∈ words.dropLast, openQuote none word = none := by decide
  exact ⟨hwords, (coerce_bareArray (by decide) hwords).2.mpr hclosed⟩

-- The apostrophe of the first word takes the comma with it.
theorem coerce_bareArray_open :
    let words := ["don't".toList, "stop".toList]
    (∀ word ∈ words, IsBareWord word) ∧ bareArray words = "[don't, stop]".toList ∧
      coerceText "[don't, stop]" = .array [.string "don't, stop"] ∧
      coerce (bareArray words) ≠ .array (words.map fun word => .string (String.ofList word)) := by
  intro words
  have hwords : ∀ word ∈ words, IsBareWord word := by
    refine List.forall_mem_cons.mpr ⟨?_, List.forall_mem_singleton.mpr ?_⟩
    all_goals exact isBareWord_of_plain (by decide) (by decide) (by decide) (by decide) (by decide)
  have hparts : splitTopLevel none 0 "don't, stop".toList = ["don't, stop".toList] := by decide
  have hvisible : (trim "don't, stop".toList).isEmpty = false := by decide
  have hpart : coerce "don't, stop".toList = .string "don't, stop" := by
    rw [coerce_eq]
    rfl
  have hread : coerce (bareArray words) = .array [.string "don't, stop"] := by
    have hinner : bareArray words = '[' :: ("don't, stop".toList ++ [']']) := by decide
    rw [hinner, coerce_bracketed, hvisible, if_neg Bool.false_ne_true, hparts, List.map_singleton,
      hpart]
  refine ⟨hwords, by decide, hread, ?_⟩
  rw [hread]
  decide

end NoteVault.FrontMatter
