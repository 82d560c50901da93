import Mathlib.Data.List.TakeWhile
import NoteVault.Text.CaseFold
import NoteVault.Proofs.Text.Pieces
import NoteVault.Validation.Section

namespace NoteVault.Validation

open Text

-- The parts of a heading: hashes, blanks, the title in any case, and blanks again.
structure IsHeading (title marks gap heading trail : List Char) : Prop where
  marks_ne_nil : marks ≠ []
  eq_hash : ∀ char ∈ marks, char = '#'
  gap_ne_nil : gap ≠ []
  gap_blank : ∀ char ∈ gap, isBlank char = true
  same_letters : heading.map (foldCode ·.toNat) = title.map (foldCode ·.toNat)
  trail_blank : ∀ char ∈ trail, isBlank char = true

-- A line that is a heading with the title.
def IsHeadingLine (title line : List Char) : Prop :=
  ∃ marks gap heading trail, IsHeading title marks gap heading trail ∧
    line = marks ++ (gap ++ (heading ++ trail))

-- A heading whose title stands on a later line than its hashes.
def HasTornHeading (title body : List Char) : Prop :=
  ∃ before marks gap heading trail after, IsHeading title marks gap heading trail ∧
    body = before ++ (marks ++ (gap ++ (heading ++ (trail ++ after)))) ∧
    StartsLine before ∧ EndsLine after ∧ '\n' ∈ gap

-- Hashes with blanks after them and no title.
def IsBareLine (line : List Char) : Prop :=
  ∃ marks gap, marks ≠ [] ∧ (∀ char ∈ marks, char = '#') ∧ (∀ char ∈ gap, isBlank char = true) ∧
    line = marks ++ gap

variable {title chars body marks gap heading trail before after line : List Char}

theorem endsLine_append (htrail : ∀ char ∈ trail, isBlank char = true) (h : EndsLine after) :
    endsLine (trail ++ after) = true := by
  induction trail with
  | nil =>
      cases after with
      | nil => rfl
      | cons char after =>
          obtain rfl := h char rfl
          rfl
  | cons char trail ih =>
      obtain ⟨hchar, htrail⟩ := List.forall_mem_cons.mp htrail
      by_cases hfeed : char = '\n'
      · subst hfeed
        rfl
      · have hskip : (isBlank char && char != '\n') = true := by simp [hchar, hfeed]
        rw [endsLine, List.cons_append, List.dropWhile_cons_of_pos (by simpa using hskip)]
        exact ih htrail

theorem exists_of_endsLine (h : endsLine chars = true) : ∃ trail after,
    chars = trail ++ after ∧ (∀ char ∈ trail, isBlank char = true ∧ char ≠ '\n') ∧
      EndsLine after := by
  have hsplit := List.takeWhile_append_dropWhile (p := fun char => isBlank char && char != '\n')
    (l := chars)
  refine ⟨_, _, hsplit.symm, fun char hc => ?_, fun char hc => ?_⟩
  · simpa using List.mem_takeWhile_imp hc
  · rw [endsLine] at h
    obtain ⟨rest, hrest⟩ := List.head?_eq_some_iff.mp hc
    simpa [hrest] using h

theorem startsWithTitle_iff : startsWithTitle title chars = true ↔ ∃ heading rest,
    chars = heading ++ rest ∧ heading.map (foldCode ·.toNat) = title.map (foldCode ·.toNat) ∧
      endsLine rest = true := by
  induction title generalizing chars with
  | nil =>
      rw [startsWithTitle]
      constructor
      · exact fun h => ⟨[], chars, rfl, rfl, h⟩
      · rintro ⟨heading, rest, rfl, hheading, h⟩
        rw [List.map_nil, List.map_eq_nil_iff] at hheading
        rwa [hheading]
  | cons letter title ih =>
      cases chars with
      | nil => simp [startsWithTitle]
      | cons char chars =>
          simp only [startsWithTitle, Bool.and_eq_true, sameLetter_iff, ih]
          constructor
          · rintro ⟨hsame, heading, rest, rfl, hheading, hrest⟩
            exact ⟨char :: heading, rest, rfl, by simp [hsame, hheading], hrest⟩
          · rintro ⟨heading, rest, heq, hheading, hrest⟩
            obtain ⟨first, heading, rfl⟩ := List.exists_cons_of_ne_nil (l := heading) (by
              rintro rfl
              cases hheading)
            obtain ⟨rfl, rfl⟩ := List.cons.inj heq
            obtain ⟨hsame, hheading⟩ := List.cons.inj hheading
            exact ⟨hsame.symm, heading, rest, rfl, hheading, hrest⟩

theorem titleAfterBlanks_iff : titleAfterBlanks title chars = true ↔ ∃ gap rest,
    chars = gap ++ rest ∧ gap ≠ [] ∧ (∀ char ∈ gap, isBlank char = true) ∧
      startsWithTitle title rest = true := by
  induction chars with
  | nil => simp [titleAfterBlanks]
  | cons char chars ih =>
      simp only [titleAfterBlanks, Bool.and_eq_true, Bool.or_eq_true, ih]
      constructor
      · rintro ⟨hchar, htitle | ⟨gap, rest, rfl, -, hgap, hrest⟩⟩
        · exact ⟨[char], chars, rfl, List.cons_ne_nil _ _, by simpa using hchar, htitle⟩
        · exact ⟨char :: gap, rest, rfl, List.cons_ne_nil _ _,
            List.forall_mem_cons.mpr ⟨hchar, hgap⟩, hrest⟩
      · rintro ⟨gap, rest, heq, hne, hgap, hrest⟩
        obtain ⟨first, gap, rfl⟩ := List.exists_cons_of_ne_nil hne
        obtain ⟨rfl, rfl⟩ := List.cons.inj heq
        obtain ⟨hchar, hgap⟩ := List.forall_mem_cons.mp hgap
        cases gap with
        | nil => exact ⟨hchar, .inl hrest⟩
        | cons next gap => exact ⟨hchar, .inr ⟨_, rest, rfl, List.cons_ne_nil _ _, hgap, hrest⟩⟩

theorem startsWithHeading_iff : startsWithHeading title chars = true ↔ ∃ marks rest,
    chars = marks ++ rest ∧ marks ≠ [] ∧ (∀ char ∈ marks, char = '#') ∧
      titleAfterBlanks title rest = true := by
  constructor
  · intro h
    unfold startsWithHeading at h
    split at h
    · rename_i rest
      refine ⟨'#' :: rest.takeWhile (· == '#'), rest.dropWhile (· == '#'), ?_, List.cons_ne_nil _ _,
        List.forall_mem_cons.mpr ⟨rfl, fun char hc => ?_⟩, h⟩
      · rw [List.cons_append, List.takeWhile_append_dropWhile]
      · simpa using List.mem_takeWhile_imp hc
    · cases h
  · rintro ⟨marks, rest, rfl, hne, hmarks, hrest⟩
    obtain ⟨first, marks, rfl⟩ := List.exists_cons_of_ne_nil hne
    obtain ⟨rfl, hmarks⟩ := List.forall_mem_cons.mp hmarks
    -- the hashes end where the blanks begin
    obtain ⟨gap, after, rfl, hgap, hblank, -⟩ := titleAfterBlanks_iff.mp hrest
    obtain ⟨blank, gap, rfl⟩ := List.exists_cons_of_ne_nil hgap
    have hstop : ¬ (blank == '#') = true := by
      intro hmark
      have hfirst := hblank blank List.mem_cons_self
      rw [beq_iff_eq.mp hmark] at hfirst
      exact absurd hfirst (by decide)
    have hdrop : (marks ++ (blank :: gap ++ after)).dropWhile (· == '#') =
        blank :: gap ++ after := by
      rw [List.dropWhile_append_of_pos (by simpa using hmarks), List.cons_append]
      exact List.dropWhile_cons_of_neg hstop
    rw [List.cons_append, startsWithHeading, hdrop]
    exact hrest

theorem headingBelow_iff : headingBelow title chars = true ↔ ∃ before rest,
    chars = before ++ '\n' :: rest ∧ startsWithHeading title rest = true := by
  induction chars with
  | nil => simp [headingBelow]
  | cons char chars ih =>
      simp only [headingBelow, Bool.or_eq_true, Bool.and_eq_true, beq_iff_eq, ih]
      constructor
      · rintro (⟨rfl, hheading⟩ | ⟨before, rest, rfl, hheading⟩)
        · exact ⟨[], chars, rfl, hheading⟩
        · exact ⟨char :: before, rest, rfl, hheading⟩
      · rintro ⟨before, rest, heq, hheading⟩
        cases before with
        | nil =>
            obtain ⟨rfl, rfl⟩ := List.cons.inj heq
            exact .inl ⟨rfl, hheading⟩
        | cons first before =>
            obtain ⟨-, rfl⟩ := List.cons.inj heq
            exact .inr ⟨before, rest, rfl, hheading⟩

theorem hasSection_iff_startsWithHeading (body title : String) : hasSection body title = true ↔
    ∃ before rest, body.toList = before ++ rest ∧ StartsLine before ∧
      startsWithHeading title.toList rest = true := by
  simp only [hasSection, Bool.or_eq_true, headingBelow_iff]
  constructor
  · rintro (h | ⟨before, rest, heq, h⟩)
    · exact ⟨[], _, rfl, startsLine_nil, h⟩
    · refine ⟨before ++ ['\n'], rest, by rw [heq]; simp, fun char hc => ?_, h⟩
      simpa [eq_comm] using hc
  · rintro ⟨before, rest, heq, hstart, h⟩
    rcases List.eq_nil_or_concat before with rfl | ⟨front, last, rfl⟩
    · exact .inl (heq ▸ h)
    · obtain rfl := hstart last (by simp)
      exact .inr ⟨front, rest, by rw [heq]; simp, h⟩

-- Wherever a line starts, a heading is found, be it on that line or not.
theorem hasSection_of_parts {body title : String}
    (h : IsHeading title.toList marks gap heading trail)
    (hbody : body.toList = before ++ (marks ++ (gap ++ (heading ++ (trail ++ after)))))
    (hstart : StartsLine before) (hend : EndsLine after) : hasSection body title = true := by
  rw [hasSection_iff_startsWithHeading]
  refine ⟨before, _, hbody, hstart, startsWithHeading_iff.mpr ⟨marks, _, rfl, h.marks_ne_nil,
    h.eq_hash, titleAfterBlanks_iff.mpr ⟨gap, _, rfl, h.gap_ne_nil, h.gap_blank, ?_⟩⟩⟩
  exact startsWithTitle_iff.mpr
    ⟨heading, _, rfl, h.same_letters, endsLine_append h.trail_blank hend⟩

theorem exists_parts_of_hasSection {body title : String} (h : hasSection body title = true) :
    ∃ before marks gap heading trail after, IsHeading title.toList marks gap heading trail ∧
      body.toList = before ++ (marks ++ (gap ++ (heading ++ (trail ++ after)))) ∧
      StartsLine before ∧ EndsLine after ∧ '\n' ∉ trail := by
  obtain ⟨before, rest, hbody, hstart, h⟩ := (hasSection_iff_startsWithHeading body title).mp h
  obtain ⟨marks, rest, rfl, hne, hmarks, h⟩ := startsWithHeading_iff.mp h
  obtain ⟨gap, rest, rfl, hgapne, hgap, h⟩ := titleAfterBlanks_iff.mp h
  obtain ⟨heading, rest, rfl, hheading, h⟩ := startsWithTitle_iff.mp h
  obtain ⟨trail, after, rfl, htrail, hend⟩ := exists_of_endsLine h
  exact ⟨before, marks, gap, heading, trail, after,
    ⟨hne, hmarks, hgapne, hgap, hheading, fun char hc => (htrail char hc).1⟩, hbody, hstart, hend,
    fun hfeed => (htrail _ hfeed).2 rfl⟩

-- Line ends are letters of nothing else.
theorem IsHeading.notMem (h : IsHeading title marks gap heading trail) (hline : '\n' ∉ title) :
    '\n' ∉ heading := by
  intro hfeed
  have hcode := List.mem_map_of_mem (f := fun char : Char => foldCode char.toNat) hfeed
  rw [h.same_letters] at hcode
  obtain ⟨letter, hletter, hsame⟩ := List.mem_map.mp hcode
  exact hline (eq_of_foldCode_eq hsame (by decide) ▸ hletter)

theorem IsHeading.getLast?_ne (h : IsHeading title marks gap heading trail)
    (hlast : ∀ char ∈ title.getLast?, isBlank char = false) : heading.getLast? ≠ some '\r' := by
  intro hreturn
  have hcode := congrArg List.getLast? h.same_letters
  rw [List.getLast?_map, List.getLast?_map, hreturn, Option.map_some, eq_comm] at hcode
  obtain ⟨letter, hletter, hsame⟩ := Option.map_eq_some_iff.mp hcode
  obtain rfl := eq_of_foldCode_eq hsame (by decide)
  exact absurd (hlast _ hletter) (by decide)

-- A heading stays one without a carriage return at its end.
theorem IsHeading.withoutReturn (h : IsHeading title marks gap heading trail) (hne : title ≠ [])
    (hlast : ∀ char ∈ title.getLast?, isBlank char = false) :
    IsHeadingLine title (withoutLast '\r' (marks ++ (gap ++ (heading ++ trail)))) := by
  rw [withoutLast]
  split
  · rename_i hreturn
    rcases List.eq_nil_or_concat trail with rfl | ⟨front, last, rfl⟩
    · have hheading : heading ≠ [] := by
        rintro rfl
        exact hne (List.map_eq_nil_iff.mp h.same_letters.symm)
      have hend : (marks ++ (gap ++ heading)).getLast? = heading.getLast? := by
        rw [← List.append_assoc, List.getLast?_append, Option.or_of_isSome]
        rwa [List.getLast?_isSome]
      rw [List.append_nil, hend] at hreturn
      exact absurd hreturn (h.getLast?_ne hlast)
    · have htrail : ∀ char ∈ front, isBlank char = true :=
        fun char hc => h.trail_blank char (by simp [hc])
      refine ⟨marks, gap, heading, front, { h with trail_blank := htrail }, ?_⟩
      rw [List.concat_eq_append]
      simp only [← List.append_assoc, List.dropLast_concat]
  · exact ⟨marks, gap, heading, trail, h, rfl⟩

theorem hasSection_of_isHeadingLine {body title : String} (hmem : line ∈ lines body.toList)
    (h : IsHeadingLine title.toList line) : hasSection body title = true := by
  obtain ⟨before, ending, after, hbody, hstart, hend, -, hending⟩ := exists_of_mem_lines hmem
  obtain ⟨marks, gap, heading, trail, h, rfl⟩ := h
  have hblank : ∀ char ∈ trail ++ ending, isBlank char = true := by
    refine List.forall_mem_append.mpr ⟨h.trail_blank, ?_⟩
    rcases hending with rfl | rfl
    · exact fun _ hc => nomatch hc
    · exact fun char hc => List.mem_singleton.mp hc ▸ rfl
  have hheading : IsHeading title.toList marks gap heading (trail ++ ending) :=
    { h with trail_blank := hblank }
  refine hasSection_of_parts hheading ?_ hstart hend
  rw [hbody]
  simp only [List.append_assoc]

theorem exists_isBareLine (h : HasTornHeading title body) :
    ∃ line ∈ lines body, IsBareLine line := by
  obtain ⟨before, marks, gap, heading, trail, after, h, rfl, hstart, -, hfeed⟩ := h
  obtain ⟨first, rest, rfl, hfirst⟩ := List.eq_append_cons_of_mem hfeed
  have hmarks : '\n' ∉ marks := fun hc => absurd (h.eq_hash _ hc) (by decide)
  have hblank : ∀ char ∈ first, isBlank char = true :=
    fun char hc => h.gap_blank char (List.mem_append_left _ hc)
  have hend : EndsLine ('\n' :: (rest ++ (heading ++ (trail ++ after)))) :=
    fun char hc => (Option.some.inj hc).symm
  have hbare : '\n' ∉ marks ++ first := by simp [hmarks, hfirst]
  have hmem := mem_lines_of_append hstart hend (by simp [h.marks_ne_nil]) hbare
  simp only [List.append_assoc, List.cons_append] at hmem ⊢
  rcases hmem with hmem | hmem
  · exact ⟨_, hmem, marks, first, h.marks_ne_nil, h.eq_hash, hblank, rfl⟩
  · refine ⟨_, hmem, ?_⟩
    rw [withoutLast]
    split
    · rename_i hreturn
      rcases List.eq_nil_or_concat first with rfl | ⟨front, last, rfl⟩
      · rw [List.append_nil] at hreturn
        exact absurd (h.eq_hash _ (List.mem_of_getLast? hreturn)) (by decide)
      · refine ⟨marks, front, h.marks_ne_nil, h.eq_hash,
          fun char hc => hblank char (by simp [hc]), ?_⟩
        rw [List.concat_eq_append, ← List.append_assoc, List.dropLast_concat]
    · exact ⟨marks, first, h.marks_ne_nil, h.eq_hash, hblank, rfl⟩

-- A section is found exactly where a line is a heading with its title, or where the blanks
-- of a heading reach over line ends. That takes a line of hashes alone.
theorem hasSection_iff_heading {body title : String} (hne : title ≠ "")
    (hline : '\n' ∉ title.toList) (hlast : ∀ char ∈ title.toList.getLast?, isBlank char = false) :
    (hasSection body title = true ↔
      (∃ line ∈ lines body.toList, IsHeadingLine title.toList line) ∨
        HasTornHeading title.toList body.toList) ∧
      (HasTornHeading title.toList body.toList → ∃ line ∈ lines body.toList, IsBareLine line) := by
  have htitle : title.toList ≠ [] := fun h => hne (String.toList_eq_nil_iff.mp h)
  refine ⟨⟨fun h => ?found, ?finds⟩, exists_isBareLine⟩
  case found =>
    obtain ⟨before, marks, gap, heading, trail, after, h, hbody, hstart, hend, htrail⟩ :=
      exists_parts_of_hasSection h
    by_cases hgap : '\n' ∈ gap
    · exact .inr ⟨before, marks, gap, heading, trail, after, h, hbody, hstart, hend, hgap⟩
    · have hmarks : '\n' ∉ marks := fun hc => absurd (h.eq_hash _ hc) (by decide)
      have hparts : '\n' ∉ marks ++ (gap ++ (heading ++ trail)) := by
        simp [hmarks, hgap, h.notMem hline, htrail]
      have hmem := mem_lines_of_append hstart hend (by simp [h.marks_ne_nil]) hparts
      simp only [List.append_assoc] at hmem
      rw [← hbody] at hmem
      rcases hmem with hmem | hmem
      · exact .inl ⟨_, hmem, marks, gap, heading, trail, h, rfl⟩
      · exact .inl ⟨_, hmem, h.withoutReturn htitle hlast⟩
  case finds =>
    rintro (⟨line, hmem, h⟩ | htorn)
    · exact hasSection_of_isHeadingLine hmem h
    · obtain ⟨before, marks, gap, heading, trail, after, h, hbody, hstart, hend, -⟩ := htorn
      exact hasSection_of_parts h hbody hstart hend

-- Another case of the letters, and carriage returns around the heading.
theorem hasSection_iff_heading_steps :
    let body := "Intro\r\n##  NEXT Steps \r\nEnd"
    let title := "Next steps"
    title ≠ "" ∧ '\n' ∉ title.toList ∧ (∀ char ∈ title.toList.getLast?, isBlank char = false) ∧
      (∃ line ∈ lines body.toList, IsHeadingLine title.toList line) ∧
      hasSection body title = true := by
  intro body title
  have hne : title ≠ "" := by decide
  have hline : '\n' ∉ title.toList := by decide
  have hlast : ∀ char ∈ title.toList.getLast?, isBlank char = false := by
    have hfinal : title.toList.getLast? = some 's' := by decide
    simp only [hfinal, Option.mem_def, Option.some.injEq, forall_eq']
    decide
  have hheading : ∃ line ∈ lines body.toList, IsHeadingLine title.toList line := by
    have hblank : ∀ char ∈ [' ', ' '], isBlank char = true := List.all_eq_true.mp rfl
    have htrail : ∀ char ∈ [' '], isBlank char = true := List.all_eq_true.mp rfl
    exact ⟨"##  NEXT Steps ".toList, by decide, ['#', '#'], [' ', ' '], "NEXT Steps".toList, [' '],
      ⟨by decide, by simp, by decide, hblank, by decide +kernel, htrail⟩, rfl⟩
  have hfound : hasSection body title = true :=
    (hasSection_iff_heading hne hline hlast).1.mpr (.inl hheading)
  exact ⟨hne, hline, hlast, hheading, hfound⟩

-- The title of a section can stand below a line of hashes, where it is no heading.
theorem hasSection_of_torn :
    hasSection "#\nSummary" "Summary" = true ∧
      ¬ ∃ line ∈ lines "#\nSummary".toList, IsHeadingLine "Summary".toList line := by
  refine ⟨by decide +kernel, ?_⟩
  rintro ⟨line, hmem, marks, gap, heading, trail, h, rfl⟩
  obtain ⟨mark, marks, rfl⟩ := List.exists_cons_of_ne_nil h.marks_ne_nil
  obtain ⟨blank, gap, rfl⟩ := List.exists_cons_of_ne_nil h.gap_ne_nil
  obtain rfl := h.eq_hash mark List.mem_cons_self
  have hlines : lines "#\nSummary".toList = [['#'], "Summary".toList] := by decide
  rw [hlines, List.mem_cons, List.mem_singleton] at hmem
  rcases hmem with heq | heq
  · exact absurd (List.cons.inj heq).2 (by simp)
  · exact absurd (List.cons.inj heq).1 (by decide)

end NoteVault.Validation
