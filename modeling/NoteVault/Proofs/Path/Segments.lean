import Mathlib.Data.List.Infix
import NoteVault.Storage.Memory

namespace NoteVault.Text

variable {separator : Char}

theorem splitOn_of_notMem {chars : List Char} (hs : separator ∉ chars) :
    splitOn separator chars = [chars] := by
  induction chars with
  | nil => rfl
  | cons char rest ih =>
      simp only [List.mem_cons, not_or] at hs
      simp only [splitOn, ih hs.2, Ne.symm hs.1, ite_false]

theorem splitOn_append (left right : List Char) :
    splitOn separator (left ++ separator :: right) =
      splitOn separator left ++ splitOn separator right := by
  induction left with
  | nil => simp [splitOn]
  | cons char rest ih =>
      simp only [List.cons_append, splitOn]
      split
      · simp [ih]
      · rw [ih]
        cases h : splitOn separator rest with
        | nil => exact absurd h (splitOn_ne_nil separator rest)
        | cons part parts => simp

theorem notMem_of_mem_splitOn {chars part : List Char} (hp : part ∈ splitOn separator chars) :
    separator ∉ part := by
  induction chars generalizing part with
  | nil => simp_all [splitOn]
  | cons char rest ih =>
      simp only [splitOn] at hp
      split at hp
      · rcases List.mem_cons.mp hp with rfl | hp
        · simp
        · exact ih hp
      · rename_i hne
        cases h : splitOn separator rest with
        | nil => exact absurd h (splitOn_ne_nil separator rest)
        | cons first others =>
            simp only [h, List.mem_cons] at hp
            rcases hp with rfl | hp
            · have hf : separator ∉ first := ih (by simp [h])
              simp [hf, Ne.symm hne]
            · exact ih (by simp [h, hp])

theorem splitOn_joinWith {parts : List (List Char)} (hne : parts ≠ [])
    (hs : ∀ part ∈ parts, separator ∉ part) :
    splitOn separator (joinWith separator parts) = parts := by
  induction parts with
  | nil => exact absurd rfl hne
  | cons part rest ih =>
      cases rest with
      | nil => exact splitOn_of_notMem (hs part (by simp))
      | cons next others =>
          rw [joinWith, splitOn_append, splitOn_of_notMem (hs part (by simp)),
            ih (by simp) (fun other ho => hs other (List.mem_cons_of_mem _ ho))]
          rfl

theorem joinWith_append {left right : List (List Char)} (hl : left ≠ []) (hr : right ≠ []) :
    joinWith separator (left ++ right) =
      joinWith separator left ++ separator :: joinWith separator right := by
  induction left with
  | nil => exact absurd rfl hl
  | cons part rest ih =>
      cases rest with
      | nil =>
          obtain ⟨first, others, rfl⟩ := List.exists_cons_of_ne_nil hr
          rfl
      | cons next others =>
          simpa only [List.cons_append, joinWith, List.append_assoc] using
            congrArg (part ++ separator :: ·) (ih (by simp))

theorem mem_joinWith {char : Char} (hne : char ≠ separator) (parts : List (List Char)) :
    char ∈ joinWith separator parts ↔ ∃ part ∈ parts, char ∈ part := by
  induction parts with
  | nil => simp [joinWith]
  | cons part rest ih =>
      cases rest with
      | nil => simp [joinWith]
      | cons next others =>
          rw [joinWith, List.mem_append, List.mem_cons, ih]
          simp only [hne, false_or, List.mem_cons, exists_eq_or_imp]

-- Characters may be replaced before or after cutting when none of them becomes
-- or stops being a separator.
theorem splitOn_map {replace : Char → Char}
    (hreplace : ∀ char, replace char = separator ↔ char = separator) (chars : List Char) :
    splitOn separator (chars.map replace) = (splitOn separator chars).map (List.map replace) := by
  induction chars with
  | nil => rfl
  | cons char rest ih =>
      simp only [List.map_cons, splitOn, ih, hreplace]
      split
      · rfl
      · cases h : splitOn separator rest with
        | nil => exact absurd h (splitOn_ne_nil separator rest)
        | cons part parts => rfl

theorem joinWith_map {replace : Char → Char} (hreplace : replace separator = separator)
    (parts : List (List Char)) :
    joinWith separator (parts.map (List.map replace)) = (joinWith separator parts).map replace := by
  induction parts with
  | nil => rfl
  | cons part rest ih =>
      cases rest with
      | nil => rfl
      | cons next others =>
          simp only [List.map_cons] at ih
          simp only [List.map_cons, joinWith, ih, List.map_append, hreplace]

end NoteVault.Text

namespace NoteVault.Path

-- A part of a path that names something.
def IsName (part : List Char) : Prop :=
  part ≠ [] ∧ part ≠ ['.'] ∧ '/' ∉ part

instance (part : List Char) : Decidable (IsName part) :=
  inferInstanceAs (Decidable (_ ∧ _ ∧ _))

-- A path as the vault keeps it: in normal form, and without a way up.
structure Clean (path : String) : Prop where
  normal : normalize path = path
  stays : hasTraversal path = false

theorem isName_of_mem_segments {path : String} {part : List Char} (hp : part ∈ segments path) :
    IsName part := by
  simp only [segments, List.mem_filter, Bool.and_eq_true, bne_iff_ne] at hp
  exact ⟨hp.2.1, hp.2.2, Text.notMem_of_mem_splitOn hp.1⟩

theorem parts_ofParts {names : List (List Char)} (hne : names ≠ [])
    (hn : ∀ part ∈ names, '/' ∉ part) : parts (ofParts names) = names := by
  simp only [parts, ofParts, String.toList_ofList]
  exact Text.splitOn_joinWith hne hn

theorem segments_empty : segments "" = [] := by
  simp [segments, parts, Text.splitOn]

theorem segments_ofParts {names : List (List Char)} (hn : ∀ part ∈ names, IsName part) :
    segments (ofParts names) = names := by
  by_cases hne : names = []
  · subst hne; exact segments_empty
  · rw [segments, parts_ofParts hne fun part hp => (hn part hp).2.2]
    apply List.filter_eq_self.mpr
    intro part hp
    simp [(hn part hp).1, (hn part hp).2.1]

@[simp] theorem segments_normalize (path : String) : segments (normalize path) = segments path :=
  segments_ofParts fun _ hp => isName_of_mem_segments hp

theorem normalize_eq_normalize_iff (left right : String) :
    normalize left = normalize right ↔ segments left = segments right := by
  constructor
  · intro h
    simpa only [segments_normalize] using congrArg segments h
  · exact congrArg ofParts

theorem normalize_normalize (path : String) : normalize (normalize path) = normalize path :=
  (normalize_eq_normalize_iff _ _).mpr (segments_normalize path)

theorem hasTraversal_iff (path : String) : hasTraversal path = true ↔ ['.', '.'] ∈ segments path := by
  simp [hasTraversal, segments]

theorem hasTraversal_congr {left right : String} (h : segments left = segments right) :
    hasTraversal left = hasTraversal right := by
  rw [Bool.eq_iff_iff, hasTraversal_iff, hasTraversal_iff, h]

theorem hasTraversal_normalize (path : String) : hasTraversal (normalize path) = hasTraversal path :=
  hasTraversal_congr (segments_normalize path)

-- Normal paths are the same when their segments are.
theorem eq_of_segments_eq {left right : String} (hl : normalize left = left)
    (hr : normalize right = right) (h : segments left = segments right) : left = right := by
  rw [← hl, ← hr]
  exact (normalize_eq_normalize_iff _ _).mpr h

theorem segments_eq_nil_iff {path : String} (hp : normalize path = path) :
    segments path = [] ↔ path = "" := by
  constructor
  · intro h
    rw [← hp, normalize, h]
    rfl
  · rintro rfl
    exact segments_empty

theorem segments_ne_nil {path : String} (hp : normalize path = path) (hne : path ≠ "") :
    segments path ≠ [] :=
  fun h => hne ((segments_eq_nil_iff hp).mp h)

theorem normalize_ofParts {names : List (List Char)} (hn : ∀ part ∈ names, IsName part) :
    normalize (ofParts names) = ofParts names := by
  rw [normalize, segments_ofParts hn]

theorem parts_eq_segments {path : String} (hp : normalize path = path) (hne : path ≠ "") :
    parts path = segments path := by
  conv => lhs; rw [← hp, normalize]
  exact parts_ofParts (segments_ne_nil hp hne) fun part h => (isName_of_mem_segments h).2.2

theorem segments_append_slash (folder name : String) :
    segments (folder ++ "/" ++ name) = segments folder ++ segments name := by
  have h : (folder ++ "/" ++ name).toList = folder.toList ++ '/' :: name.toList := by simp
  simp only [segments, parts, h, Text.splitOn_append, List.filter_append]

@[simp] theorem segments_below (folder name : String) :
    segments (below folder name) = segments folder ++ segments name :=
  segments_append_slash folder name

-- Normalizing brings no character but slashes into a path.
theorem mem_of_mem_normalize {path : String} {char : Char} (hne : char ≠ '/')
    (h : char ∈ (normalize path).toList) : char ∈ path.toList := by
  rw [normalize, ofParts, String.toList_ofList, Text.mem_joinWith hne] at h
  obtain ⟨part, hp, hc⟩ := h
  rw [← Text.joinWith_splitOn '/' path.toList, Text.mem_joinWith hne]
  exact ⟨part, List.mem_of_mem_filter hp, hc⟩

-- Replacing characters that paths give no meaning to leaves the shape of a path.
theorem segments_map {replace : Char → Char} (hslash : ∀ char, replace char = '/' ↔ char = '/')
    (hdot : ∀ char, replace char = '.' ↔ char = '.') (path : String) :
    segments (String.ofList (path.toList.map replace)) = (segments path).map (List.map replace) := by
  have hpoint : ∀ part : List Char, part.map replace = ['.'] ↔ part = ['.'] := by
    intro part
    simp only [List.map_eq_singleton_iff, hdot, exists_eq_right]
  have hname : ∀ part : List Char, (part.map replace != [] && part.map replace != ['.']) =
      (part != [] && part != ['.']) := by
    intro part
    rw [Bool.eq_iff_iff]
    simp only [Bool.and_eq_true, bne_iff_ne, ne_eq, List.map_eq_nil_iff, hpoint]
  simp only [segments, parts, String.toList_ofList, Text.splitOn_map hslash, List.filter_map]
  exact congrArg _ (List.filter_congr fun part _ => hname part)

theorem normalize_map {replace : Char → Char} (hslash : ∀ char, replace char = '/' ↔ char = '/')
    (hdot : ∀ char, replace char = '.' ↔ char = '.') (path : String) :
    normalize (String.ofList (path.toList.map replace)) =
      String.ofList ((normalize path).toList.map replace) := by
  rw [normalize, segments_map hslash hdot, ofParts, Text.joinWith_map ((hslash '/').mpr rfl),
    normalize, ofParts, String.toList_ofList]

theorem hasTraversal_map {replace : Char → Char} (hslash : ∀ char, replace char = '/' ↔ char = '/')
    (hdot : ∀ char, replace char = '.' ↔ char = '.') (path : String) :
    hasTraversal (String.ofList (path.toList.map replace)) = hasTraversal path := by
  have hpoints : ∀ part : List Char, part.map replace = ['.', '.'] ↔ part = ['.', '.'] := by
    intro part
    simp only [List.map_eq_cons_iff, List.map_eq_nil_iff, hdot]
    constructor
    · rintro ⟨_, _, rfl, rfl, _, _, rfl, rfl, rfl⟩
      rfl
    · rintro rfl
      exact ⟨_, _, rfl, rfl, _, _, rfl, rfl, rfl⟩
  rw [Bool.eq_iff_iff, hasTraversal_iff, hasTraversal_iff, segments_map hslash hdot, List.mem_map]
  simp only [hpoints, exists_eq_right]

-- A single name is its own only segment.
theorem segments_of_isName {name : String} (hn : IsName name.toList) :
    segments name = [name.toList] := by
  have h : segments (ofParts [name.toList]) = [name.toList] := segments_ofParts (by simpa using hn)
  simpa [ofParts, Text.joinWith] using h

theorem clean_of_isName {name : String} (hn : IsName name.toList) (hd : name.toList ≠ ['.', '.']) :
    Clean name := by
  have hs := segments_of_isName hn
  refine ⟨?_, ?_⟩
  · rw [normalize, hs]
    simp [ofParts, Text.joinWith]
  · rw [Bool.eq_false_iff, ne_eq, hasTraversal_iff, hs, List.mem_singleton]
    exact fun h => hd h.symm

end NoteVault.Path
