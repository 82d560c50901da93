import NoteVault.Proofs.Path.Containment

namespace NoteVault.Path

variable {path folder : String} {name : List Char}

theorem child_eq (hf : normalize folder = folder) (name : List Char) :
    child folder (String.ofList name) = ofParts (segments folder ++ [name]) := by
  by_cases hempty : folder = ""
  · subst hempty
    rw [segments_empty]
    rfl
  · have hs := segments_ne_nil hf hempty
    rw [child, if_neg (by simpa using hempty), below, ofParts,
      Text.joinWith_append hs (List.cons_ne_nil _ _)]
    conv => lhs; rw [← hf]
    apply String.toList_inj.mp
    simp [normalize, ofParts, Text.joinWith]

theorem isName_of_mem_child (hn : IsName name) :
    ∀ part ∈ segments folder ++ [name], IsName part := by
  intro part hm
  rcases List.mem_append.mp hm with hm | hm
  · exact isName_of_mem_segments hm
  · exact List.mem_singleton.mp hm ▸ hn

theorem segments_child (hf : normalize folder = folder) (hn : IsName name) :
    segments (child folder (String.ofList name)) = segments folder ++ [name] := by
  rw [child_eq hf, segments_ofParts (isName_of_mem_child hn)]

theorem normalize_child (hf : normalize folder = folder) (hn : IsName name) :
    normalize (child folder (String.ofList name)) = child folder (String.ofList name) := by
  rw [child_eq hf, normalize_ofParts (isName_of_mem_child hn)]

theorem child_ne_empty (hf : normalize folder = folder) (hn : IsName name) :
    child folder (String.ofList name) ≠ "" := by
  intro h
  have hs := segments_child hf hn
  rw [h, segments_empty] at hs
  simp at hs

-- The folders around a path are the parent and all around it.
theorem mem_ancestors_iff_parent (hp : normalize path = path) :
    folder ∈ ancestors path ↔ folder ≠ "" ∧ isWithin (parent path) folder = true := by
  rw [ancestors_eq hp]
  split
  · rename_i hempty
    rw [hempty]
    constructor
    · exact fun h => absurd h List.not_mem_nil
    · rintro ⟨hne, hw⟩
      exact absurd rfl (ne_empty_of_isWithin hw hne)
  · rename_i hempty
    rw [List.mem_cons, mem_ancestors_iff (normalize_parent hp)]
    constructor
    · rintro (rfl | ⟨hne, -, hw⟩)
      · exact ⟨hempty, isWithin_self _⟩
      · exact ⟨hne, hw⟩
    · rintro ⟨hne, hw⟩
      by_cases hsame : folder = parent path
      · exact .inl hsame
      · exact .inr ⟨hne, hsame, hw⟩

-- A path is the child of its parent that has its name.
theorem eq_child (hp : normalize path = path) (hne : path ≠ "") :
    child (parent path) (fileName path) = path ∧ IsName (fileName path).toList := by
  have hname := fileName_eq hp hne
  constructor
  · rw [hname, child_eq (normalize_parent hp), segments_parent hp, List.dropLast_append_getLast]
    exact hp
  · rw [hname, String.toList_ofList]
    exact isName_of_mem_segments (List.getLast_mem _)

theorem eq_below_of_parent (hp : normalize path = path) (hne : parent path ≠ "") :
    path = below (parent path) (fileName path) ∧ IsName (fileName path).toList := by
  have hpe : path ≠ "" := by
    rintro rfl
    exact hne rfl
  obtain ⟨hchild, hname⟩ := eq_child hp hpe
  rw [child, if_neg (by simpa using hne)] at hchild
  exact ⟨hchild.symm, hname⟩

theorem parent_child (hf : normalize folder = folder) (hn : IsName name) :
    parent (child folder (String.ofList name)) = folder := by
  refine eq_of_segments_eq (normalize_parent (normalize_child hf hn)) hf ?_
  rw [segments_parent (normalize_child hf hn), segments_child hf hn, List.dropLast_concat]

-- The next folder on the way down from a folder to a path.
theorem child_of_segments {rest : List (List Char)} (hp : normalize path = path)
    (hf : normalize folder = folder) (hsegments : segments path = segments folder ++ name :: rest) :
    normalize (child folder (String.ofList name)) = child folder (String.ofList name) ∧
      child folder (String.ofList name) ≠ "" ∧ parent (child folder (String.ofList name)) = folder ∧
      segments path = segments (child folder (String.ofList name)) ++ rest ∧
      isWithin path (child folder (String.ofList name)) = true := by
  have hmem : name ∈ segments path := by simp [hsegments]
  have hname := isName_of_mem_segments hmem
  have hnormal := normalize_child hf hname
  have hne := child_ne_empty hf hname
  have hsplit : segments path = segments (child folder (String.ofList name)) ++ rest := by
    rw [hsegments, segments_child hf hname, List.append_assoc, List.singleton_append]
  exact ⟨hnormal, hne, parent_child hf hname, hsplit,
    isWithin_of_segments_prefix hp hnormal hne (hsplit ▸ List.prefix_append _ _)⟩

end NoteVault.Path
