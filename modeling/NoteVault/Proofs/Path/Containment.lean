import Mathlib.Data.List.Infix
import NoteVault.Proofs.Path.Segments

namespace NoteVault.Path

theorem isWithin_iff (path folder : String) :
    isWithin path folder = true ↔ path = folder ∨ ∃ rest, path = below folder rest := by
  simp only [isWithin, Bool.or_eq_true, beq_iff_eq, List.isPrefixOf_iff_prefix]
  refine or_congr_right ⟨?_, ?_⟩
  · rintro ⟨rest, hr⟩
    refine ⟨String.ofList rest, String.toList_inj.mp ?_⟩
    simp [below, ← hr]
  · rintro ⟨rest, rfl⟩
    exact ⟨rest.toList, by simp [below]⟩

theorem isWithin_below (folder name : String) : isWithin (below folder name) folder = true :=
  (isWithin_iff _ _).mpr (.inr ⟨name, rfl⟩)

theorem segments_prefix_of_isWithin {path folder : String} (h : isWithin path folder = true) :
    segments folder <+: segments path := by
  rcases (isWithin_iff path folder).mp h with rfl | ⟨rest, rfl⟩
  · exact List.prefix_rfl
  · rw [segments_below]
    exact List.prefix_append _ _

-- Between normal paths containment is the prefix order of their segments.
theorem isWithin_of_segments_prefix {path folder : String} (hp : normalize path = path)
    (hf : normalize folder = folder) (hne : folder ≠ "")
    (h : segments folder <+: segments path) : isWithin path folder = true := by
  obtain ⟨rest, hr⟩ := h
  have hs := segments_ne_nil hf hne
  rw [isWithin_iff]
  by_cases hrest : rest = []
  · left
    exact eq_of_segments_eq hp hf (by simpa [hrest] using hr.symm)
  · right
    refine ⟨ofParts rest, String.toList_inj.mp ?_⟩
    conv => lhs; rw [← hp, normalize, ← hr]
    conv => rhs; rw [← hf]
    simp only [ofParts, String.toList_ofList, Text.joinWith_append hs hrest, below, normalize,
      String.toList_append]
    simp

theorem isWithin_trans {path folder outer : String} (h : isWithin path folder = true)
    (ho : isWithin folder outer = true) : isWithin path outer = true := by
  rw [isWithin_iff] at h ho ⊢
  rcases h with rfl | ⟨rest, rfl⟩
  · exact ho
  · rcases ho with rfl | ⟨middle, rfl⟩
    · exact .inr ⟨rest, rfl⟩
    · exact .inr ⟨middle ++ "/" ++ rest, by simp [below, String.append_assoc]⟩

-- Folders that hold a common path collide, whether or not they are in normal form.
theorem overlap_of_isWithin {path left right : String} (hl : isWithin path left = true)
    (hr : isWithin path right = true) : overlap left right = true := by
  simp only [overlap, Bool.or_eq_true]
  simp only [isWithin, Bool.or_eq_true, beq_iff_eq, List.isPrefixOf_iff_prefix] at hl hr ⊢
  rcases hl with rfl | hl
  · exact .inl hr
  rcases hr with rfl | hr
  · exact .inr (.inr hl)
  rcases Nat.lt_trichotomy left.toList.length right.toList.length with hlt | heq | hgt
  · refine .inr (.inr ?_)
    have hright : right.toList <+: path.toList := (List.prefix_append _ _).trans hr
    exact List.prefix_of_prefix_length_le hl hright (by simp; omega)
  · have hboth := List.prefix_of_prefix_length_le hl hr (by simp; omega)
    have hsame := hboth.eq_of_length (by simpa using heq)
    exact .inl (.inl (String.toList_inj.mp (List.append_cancel_right hsame)))
  · refine .inl (.inr ?_)
    have hleft : left.toList <+: path.toList := (List.prefix_append _ _).trans hl
    exact List.prefix_of_prefix_length_le hr hleft (by simp; omega)

theorem normalize_below {folder name : String} (hf : normalize folder = folder)
    (hn : normalize name = name) (hfe : folder ≠ "") (hne : name ≠ "") :
    normalize (below folder name) = below folder name := by
  have hs := segments_ne_nil hf hfe
  have ht := segments_ne_nil hn hne
  apply String.toList_inj.mp
  rw [normalize, segments_below]
  simp only [ofParts, String.toList_ofList, Text.joinWith_append hs ht, Path.below,
    String.toList_append]
  conv => rhs; rw [← hf, ← hn]
  simp [normalize, ofParts]

theorem Clean.below {folder name : String} (hf : Clean folder) (hn : Clean name)
    (hfe : folder ≠ "") (hne : name ≠ "") : Clean (below folder name) := by
  refine ⟨normalize_below hf.normal hn.normal hfe hne, ?_⟩
  have hff := hf.stays
  have hnn := hn.stays
  rw [Bool.eq_false_iff, ne_eq, hasTraversal_iff] at hff hnn ⊢
  simp [hff, hnn]

theorem below_ne_empty (folder name : String) : below folder name ≠ "" := by
  intro h
  simpa [below] using congrArg String.toList h

theorem below_ne_self (folder name : String) : below folder name ≠ folder := by
  intro h
  have hlength := congrArg (fun path : String => path.toList.length) h
  simp [below] at hlength

theorem not_isWithin_empty {folder : String} (hne : folder ≠ "") : isWithin "" folder = false := by
  refine Bool.eq_false_iff.mpr fun hw => ?_
  rcases (isWithin_iff _ _).mp hw with h | ⟨rest, h⟩
  · exact hne h.symm
  · exact below_ne_empty folder rest h.symm

theorem ne_empty_of_isWithin {path folder : String} (hw : isWithin path folder = true)
    (hf : folder ≠ "") : path ≠ "" := by
  rintro rfl
  rw [not_isWithin_empty hf] at hw
  cases hw

theorem storagePath_cases (raw : String) :
    (∃ fault, storagePath raw = .error fault) ∨
      Clean (normalize raw) ∧ storagePath raw = .ok (normalize raw) := by
  simp only [storagePath]
  split
  · exact .inl ⟨_, rfl⟩
  · rename_i hstays
    exact .inr ⟨⟨normalize_normalize raw, by simpa using hstays⟩, rfl⟩

theorem Clean.storagePath_eq {path : String} (hp : Clean path) : storagePath path = .ok path := by
  simp [storagePath, hp.normal, hp.stays]

theorem parent_eq {path : String} (hp : normalize path = path) :
    parent path = ofParts (segments path).dropLast := by
  by_cases hne : path = ""
  · subst hne
    rw [segments_empty]
    rfl
  · rw [parent, parts_eq_segments hp hne]

theorem isName_of_mem_dropLast {path : String} :
    ∀ part ∈ (segments path).dropLast, IsName part :=
  fun _ hp => isName_of_mem_segments (List.dropLast_subset _ hp)

theorem segments_parent {path : String} (hp : normalize path = path) :
    segments (parent path) = (segments path).dropLast := by
  rw [parent_eq hp, segments_ofParts isName_of_mem_dropLast]

theorem normalize_parent {path : String} (hp : normalize path = path) :
    normalize (parent path) = parent path := by
  rw [parent_eq hp, normalize_ofParts isName_of_mem_dropLast]

-- What lies around a normal path is normal, and so is what remains of it.
theorem normalize_of_below {folder rest : String}
    (h : normalize (below folder rest) = below folder rest) :
    normalize folder = folder ∧ normalize rest = rest ∧ folder ≠ "" ∧ rest ≠ "" := by
  have hall : ∀ part ∈ parts folder ++ parts rest, IsName part := by
    have hp := parts_eq_segments h (below_ne_empty folder rest)
    have hj : parts (below folder rest) = parts folder ++ parts rest := by
      simp [parts, below, Text.splitOn_append]
    rw [← hj, hp]
    exact fun part hm => isName_of_mem_segments hm
  have own : ∀ path : String, (∀ part ∈ parts path, IsName part) →
      normalize path = path ∧ path ≠ "" := by
    intro path hn
    refine ⟨?_, ?_⟩
    · rw [← ofParts_parts path]
      exact normalize_ofParts hn
    · rintro rfl
      exact (hn [] (by simp [parts, Text.splitOn])).1 rfl
  obtain ⟨hf, hfe⟩ := own folder fun part hm => hall part (List.mem_append_left _ hm)
  obtain ⟨hr, hre⟩ := own rest fun part hm => hall part (List.mem_append_right _ hm)
  exact ⟨hf, hr, hfe, hre⟩

theorem normalize_of_isWithin {path folder : String} (hp : normalize path = path)
    (h : isWithin path folder = true) : normalize folder = folder := by
  rcases (isWithin_iff path folder).mp h with rfl | ⟨rest, rfl⟩
  · exact hp
  · exact (normalize_of_below hp).1

theorem Clean.of_isWithin {path folder : String} (hp : Clean path)
    (h : isWithin path folder = true) : Clean folder := by
  refine ⟨normalize_of_isWithin hp.normal h, ?_⟩
  have hs := hp.stays
  rw [Bool.eq_false_iff, ne_eq, hasTraversal_iff] at hs ⊢
  exact fun hm => hs ((segments_prefix_of_isWithin h).subset hm)

-- A folder around a path is the path's parent or lies around the parent.
theorem isWithin_parent {path folder : String} (hp : normalize path = path) (hne : folder ≠ path)
    (h : isWithin path folder = true) (hf : folder ≠ "") : isWithin (parent path) folder = true := by
  have hn := normalize_of_isWithin hp h
  have hpre := segments_prefix_of_isWithin h
  have hlast : segments folder <+: (segments path).dropLast := by
    obtain ⟨rest, hr⟩ := hpre
    have hrest : rest ≠ [] := by
      rintro rfl
      exact hne (eq_of_segments_eq hn hp (by simpa using hr))
    rw [← hr, List.dropLast_append_of_ne_nil hrest]
    exact List.prefix_append _ _
  exact isWithin_of_segments_prefix (normalize_parent hp) hn hf (by rwa [segments_parent hp])

-- Whatever has a folder around it lies in that folder.
theorem isWithin_parent_self {path : String} (hne : parent path ≠ "") :
    isWithin path (parent path) = true := by
  obtain hempty | ⟨front, last, hparts⟩ := List.eq_nil_or_concat (parts path)
  · rw [parent, hempty] at hne
    exact absurd rfl hne
  · rw [List.concat_eq_append] at hparts
    have hparent : parent path = ofParts front := by rw [parent, hparts, List.dropLast_concat]
    have hfront : front ≠ [] := by
      rintro rfl
      exact hne hparent
    have hsplit : path = below (parent path) (String.ofList last) := by
      rw [hparent, ← ofParts_parts path, hparts, ← String.toList_inj]
      simp only [ofParts, below, String.toList_append, String.toList_ofList,
        Text.joinWith_append hfront (List.cons_ne_nil _ _), Text.joinWith, List.append_assoc]
      rfl
    have hin := isWithin_below (parent path) (String.ofList last)
    rwa [← hsplit] at hin

theorem isWithin_antisymm {left right : String} (hl : isWithin left right = true)
    (hr : isWithin right left = true) : left = right := by
  rcases (isWithin_iff _ _).mp hl with h | ⟨rest, h⟩
  · exact h
  · rcases (isWithin_iff _ _).mp hr with h' | ⟨other, h'⟩
    · exact h'.symm
    · have := congrArg (fun path => path.toList.length) (h.trans (congrArg (below · rest) h'))
      simp only [below, String.toList_append, List.length_append] at this
      have hslash : "/".toList.length = 1 := rfl
      omega

-- Whatever the form of a path, its parent holds the first of its segments.
theorem segments_parent_prefix (path : String) : segments (parent path) <+: segments path := by
  by_cases hd : (parts path).dropLast = []
  · have hempty : parent path = "" := by rw [parent, hd]; rfl
    rw [hempty, segments_empty]
    exact List.nil_prefix
  · have hsplit : parts (parent path) = (parts path).dropLast :=
      parts_ofParts hd fun part hp => Text.notMem_of_mem_splitOn (List.dropLast_subset _ hp)
    rw [segments, segments, hsplit]
    exact (List.dropLast_prefix _).filter _

theorem isWithin_normalize_of_parent {path raw folder : String} (hp : parent path = normalize raw)
    (hw : isWithin (normalize raw) folder = true) (hf : folder ≠ "") :
    isWithin (normalize path) folder = true := by
  refine isWithin_of_segments_prefix (normalize_normalize path)
    (normalize_of_isWithin (normalize_normalize raw) hw) hf ?_
  rw [segments_normalize]
  exact (segments_prefix_of_isWithin hw).trans (hp ▸ segments_parent_prefix path)

theorem mem_ancestors_iff {path folder : String} (hp : normalize path = path) :
    folder ∈ ancestors path ↔ folder ≠ "" ∧ folder ≠ path ∧ isWithin path folder = true := by
  by_cases hpe : path = ""
  · subst hpe
    simp only [ancestors, parts, Text.splitOn, String.toList_empty]
    constructor
    · simp [ofParts, Text.joinWith]
    · rintro ⟨hne, -, hw⟩
      exact absurd rfl (ne_empty_of_isWithin hw hne)
  simp only [ancestors, parts_eq_segments hp hpe, List.mem_filter, List.mem_map, List.mem_reverse,
    List.mem_range, Bool.not_eq_true', String.isEmpty_eq_false_iff]
  constructor
  · rintro ⟨⟨count, hc, rfl⟩, hne⟩
    have hn : ∀ part ∈ (segments path).take count, IsName part :=
      fun part hm => isName_of_mem_segments (List.take_subset _ _ hm)
    have hs := segments_ofParts hn
    refine ⟨hne, ?_, ?_⟩
    · intro he
      have hl := congrArg List.length (hs.symm.trans (congrArg segments he))
      simp only [List.length_take] at hl
      omega
    · exact isWithin_of_segments_prefix hp (normalize_ofParts hn) hne
        (by rw [hs]; exact List.take_prefix _ _)
  · rintro ⟨hne, hnp, hw⟩
    have hn := normalize_of_isWithin hp hw
    have hpre := segments_prefix_of_isWithin hw
    have hlen : (segments folder).length < (segments path).length := by
      refine lt_of_le_of_ne hpre.length_le fun he => hnp ?_
      exact eq_of_segments_eq hn hp (hpre.eq_of_length he)
    refine ⟨⟨(segments folder).length, hlen, ?_⟩, hne⟩
    rw [← List.prefix_iff_eq_take.mp hpre]
    exact hn

-- The folders around a path, taken one by one from the nearest.
theorem ancestors_eq {path : String} (hp : normalize path = path) :
    ancestors path = if parent path = "" then [] else parent path :: ancestors (parent path) := by
  by_cases hpe : path = ""
  · subst hpe; rfl
  have hparts := parts_eq_segments hp hpe
  obtain ⟨count, hcount⟩ : ∃ count, (segments path).length = count + 1 :=
    Nat.exists_eq_succ_of_ne_zero fun h => segments_ne_nil hp hpe (List.length_eq_zero_iff.mp h)
  have htake : (segments path).take count = (segments path).dropLast := by
    rw [List.dropLast_eq_take, hcount, Nat.add_sub_cancel]
  have hhead : ofParts ((segments path).take count) = parent path := by
    rw [htake, parent_eq hp]
  simp only [ancestors, hparts, hcount, List.range_succ, List.reverse_append, List.reverse_singleton,
    List.singleton_append, List.map_cons, hhead, List.filter_cons]
  by_cases hpar : parent path = ""
  · have hnil : (segments path).dropLast = [] := by
      rw [← segments_parent hp, hpar, segments_empty]
    have hzero : count = 0 := by
      have := congrArg List.length hnil
      simpa [hcount] using this
    simp [hpar, hzero]
  · have hlen : ((segments path).take count).length = count := by
      rw [htake, List.length_dropLast, hcount, Nat.add_sub_cancel]
    simp only [hpar, parts_eq_segments (normalize_parent hp) hpar, String.isEmpty_eq_false_iff.mpr hpar,
      Bool.not_false, ite_true, ite_false, segments_parent hp, ← htake, hlen]
    congr 2
    apply List.map_congr_left
    intro c hc
    have hlt : c < count := by simpa using hc
    rw [List.take_take, Nat.min_eq_left (Nat.le_of_lt hlt)]

-- A path and the two parts that a folder and a name in it make.
theorem parts_below {folder name : String} (hn : IsName name.toList) :
    parts (below folder name) = parts folder ++ [name.toList] := by
  simp only [parts, below, String.toList_append, List.append_assoc]
  rw [show "/".toList ++ name.toList = '/' :: name.toList from rfl, Text.splitOn_append,
    Text.splitOn_of_notMem hn.2.2]

theorem parent_below {folder name : String} (hn : IsName name.toList) :
    parent (below folder name) = folder := by
  rw [parent, parts_below hn, List.dropLast_concat, ofParts_parts]

theorem fileName_below {folder name : String} (hn : IsName name.toList) :
    fileName (below folder name) = name := by
  rw [fileName, parts_below hn, List.getLastD_concat, String.ofList_toList]

theorem fileName_eq {path : String} (hp : normalize path = path) (hne : path ≠ "") :
    fileName path = String.ofList ((segments path).getLast (segments_ne_nil hp hne)) := by
  rw [fileName, parts_eq_segments hp hne, List.getLastD_eq_getLast?,
    List.getLast?_eq_some_getLast (segments_ne_nil hp hne)]
  rfl

end NoteVault.Path
