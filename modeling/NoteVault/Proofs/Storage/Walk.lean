import Mathlib.Data.List.Infix
import NoteVault.Proofs.Storage.Documents
import NoteVault.Proofs.Storage.Levels

namespace NoteVault

-- A path lies in a folder, however deep. In the top folder lie all paths.
def Path.IsInside (path folder : String) : Prop :=
  segments folder <+: segments (parent path)

instance (path folder : String) : Decidable (Path.IsInside path folder) :=
  inferInstanceAs (Decidable (_ <+: _))

namespace Vault

-- A walk down from folders that wait to be listed. Any of them may be the next one, and
-- the folders in it wait from then on. What the listings show is found.
inductive Walk (vault : Vault) : List String → Listing → Prop
  | done : Walk vault [] .empty
  | next {waiting rest : List String} {folder : String} {listing found : Listing}
      (order : waiting.Perm (folder :: rest))
      (lists : vault.perform (.list folder) = (.ok listing, vault))
      (onward : Walk vault (listing.folders ++ rest) found) :
      Walk vault waiting ⟨listing.files ++ found.files, listing.folders ++ found.folders⟩

-- Folders that can be listed, none of them inside another.
structure IsFront (vault : Vault) (waiting : List String) : Prop where
  present : ∀ folder ∈ waiting, folder = "" ∨ vault.hasFolder folder = true
  apart : waiting.Pairwise fun left right =>
    ¬Path.segments left <+: Path.segments right ∧ ¬Path.segments right <+: Path.segments left

variable {vault : Vault} {waiting rest : List String} {path folder : String} {found more : Listing}

theorem isFront_top (vault : Vault) : vault.IsFront [""] :=
  ⟨fun _ hfolder => .inl (List.mem_singleton.mp hfolder), List.pairwise_singleton _ _⟩

theorem IsFront.perm {other : List String} (h : vault.IsFront waiting) (horder : waiting.Perm other) :
    vault.IsFront other :=
  ⟨fun folder hfolder => h.present folder (horder.mem_iff.mpr hfolder),
    (horder.pairwise_iff And.symm).mp h.apart⟩

theorem count_childrenOf {ν : Type} (map : SortedMap ν) (folder path : String) :
    (childrenOf folder map).count path =
      if map.contains path = true ∧ Path.parent path = folder then 1 else 0 := by
  rw [childrenOf, (map.nodup_keys.filter _).count]
  simp only [List.mem_filter, SortedMap.mem_keys, beq_iff_eq]

-- One walk after another is a walk.
theorem Walk.append {others : List String} (h : vault.Walk waiting found)
    (hmore : vault.Walk others more) :
    vault.Walk (waiting ++ others) ⟨found.files ++ more.files, found.folders ++ more.folders⟩ := by
  induction h with
  | done => exact hmore
  | next order lists onward ih =>
      rw [List.append_assoc] at ih
      simp only [List.append_assoc]
      exact .next (order.append_right others) lists ih

theorem Walk.exists_of_forall {folders : List String}
    (h : ∀ folder ∈ folders, ∃ found, vault.Walk [folder] found) :
    ∃ found, vault.Walk folders found := by
  induction folders with
  | nil => exact ⟨_, .done⟩
  | cons first others ih =>
      obtain ⟨⟨found, hfound⟩, hothers⟩ := List.forall_mem_cons.mp h
      obtain ⟨more, hmore⟩ := ih hothers
      exact ⟨_, hfound.append hmore⟩

namespace IsTree

variable (hv : vault.IsTree)
include hv

theorem normal_of_present (h : folder = "" ∨ vault.hasFolder folder = true) :
    Path.normalize folder = folder := by
  rcases h with rfl | h
  · decide
  · exact (hv.folder_clean folder h).1.normal

theorem perform_list (h : folder = "" ∨ vault.hasFolder folder = true) :
    vault.perform (.list folder) = (.ok (vault.listing folder), vault) := by
  have hclean : Path.Clean folder := by
    rcases h with rfl | h
    · exact ⟨by decide, by decide⟩
    · exact (hv.folder_clean folder h).1
  rw [perform_of_clean (by simpa [Call.paths] using hclean), answer, if_pos]
  rcases h with rfl | h
  · rfl
  · rw [h, Bool.or_true]

-- A folder in a folder has one name more.
theorem segments_of_child (h : path ∈ childrenOf folder vault.folders) :
    ∃ name, Path.segments path = Path.segments folder ++ [name] := by
  simp only [childrenOf, List.mem_filter, SortedMap.mem_keys, beq_iff_eq] at h
  obtain ⟨hthere, rfl⟩ := h
  obtain ⟨hclean, hne⟩ := hv.folder_clean path hthere
  have hnames := Path.segments_ne_nil hclean.normal hne
  exact ⟨_, by rw [Path.segments_parent hclean.normal, List.dropLast_append_getLast hnames]⟩

theorem isFront_children (h : vault.IsFront (folder :: rest)) :
    vault.IsFront (childrenOf folder vault.folders ++ rest) := by
  have hthere : ∀ path ∈ childrenOf folder vault.folders, vault.hasFolder path = true :=
    fun path hpath => (SortedMap.mem_keys _ _).mp (List.mem_of_mem_filter hpath)
  have hrest := List.forall_mem_cons.mp h.present
  obtain ⟨hout, hapart⟩ := List.pairwise_cons.mp h.apart
  refine ⟨fun path hpath => ?_, List.pairwise_append.mpr ⟨?_, hapart, fun path hpath other ho => ?_⟩⟩
  · exact (List.mem_append.mp hpath).elim (fun hm => .inr (hthere path hm)) (hrest.2 path)
  · -- two in one folder have as many names, and are two
    refine (vault.folders.nodup_keys.filter _).imp_of_mem fun {left right} hleft hright hne => ?_
    obtain ⟨first, hfirst⟩ := hv.segments_of_child hleft
    obtain ⟨second, hsecond⟩ := hv.segments_of_child hright
    have hlength : (Path.segments left).length = (Path.segments right).length := by
      rw [hfirst, hsecond, List.length_append, List.length_append]
      rfl
    have hdiffer : Path.segments left ≠ Path.segments right := fun hsame => hne <|
      Path.eq_of_segments_eq (hv.folder_clean left (hthere left hleft)).1.normal
        (hv.folder_clean right (hthere right hright)).1.normal hsame
    exact ⟨fun hp => hdiffer (hp.eq_of_length hlength),
      fun hp => hdiffer (hp.eq_of_length hlength.symm).symm⟩
  · obtain ⟨name, hname⟩ := hv.segments_of_child hpath
    have hdown : Path.segments folder <+: Path.segments path := hname ▸ List.prefix_append _ _
    refine ⟨fun hp => (hout other ho).1 (hdown.trans hp), fun hp => ?_⟩
    rw [hname, List.prefix_concat_iff] at hp
    rcases hp with hsame | hp
    · exact (hout other ho).1 (hsame ▸ List.prefix_append _ _)
    · exact (hout other ho).2 hp

section

variable (hparent : Path.parent path = "" ∨ vault.hasFolder (Path.parent path) = true)
include hparent

-- What lies in one of the folders that wait is directly in the next one, or lies in one of
-- those that wait after it.
theorem exists_isInside_iff (h : vault.IsFront (folder :: rest)) :
    (∃ outer ∈ folder :: rest, Path.IsInside path outer) ↔ Path.parent path = folder ∨
      ∃ outer ∈ childrenOf folder vault.folders ++ rest, Path.IsInside path outer := by
  have hnormal := hv.normal_of_present hparent
  have hfolder := hv.normal_of_present (h.present folder List.mem_cons_self)
  constructor
  · rintro ⟨outer, houter, hin⟩
    rcases List.mem_cons.mp houter with rfl | houter
    · obtain ⟨names, hnames⟩ := hin
      cases names with
      | nil => exact .inl (Path.eq_of_segments_eq hnormal hfolder (by simpa using hnames.symm))
      | cons name names =>
          -- the next folder on the way down is there as well
          obtain ⟨-, hne, hup, hsegments, hdown⟩ :=
            Path.child_of_segments hnormal hfolder hnames.symm
          have hthere : vault.hasFolder (Path.parent path) = true := by
            refine hparent.resolve_left fun hempty => ?_
            rw [hempty, Path.segments_empty] at hnames
            simp at hnames
          refine .inr ⟨_, List.mem_append_left _ (List.mem_filter.mpr ⟨?_, beq_iff_eq.mpr hup⟩), ?_⟩
          · exact (SortedMap.mem_keys _ _).mpr (hv.hasFolder_of_isWithin hthere hdown hne)
          · rw [Path.IsInside, hsegments]
            exact List.prefix_append _ _
    · exact .inr ⟨outer, List.mem_append_right _ houter, hin⟩
  · rintro (rfl | ⟨outer, houter, hin⟩)
    · exact ⟨_, List.mem_cons_self, List.prefix_rfl⟩
    rcases List.mem_append.mp houter with houter | houter
    · obtain ⟨name, hname⟩ := hv.segments_of_child houter
      refine ⟨folder, List.mem_cons_self, List.IsPrefix.trans ?_ hin⟩
      exact hname ▸ List.prefix_append _ _
    · exact ⟨outer, List.mem_cons_of_mem _ houter, hin⟩

end

theorem not_isInside_of_parent (h : vault.IsFront (folder :: rest)) (hparent : Path.parent path = folder) :
    ¬∃ outer ∈ childrenOf folder vault.folders ++ rest, Path.IsInside path outer := by
  rintro ⟨outer, houter, hin⟩
  rw [Path.IsInside, hparent] at hin
  rcases List.mem_append.mp houter with houter | houter
  · obtain ⟨name, hname⟩ := hv.segments_of_child houter
    have hlength := hin.length_le
    rw [hname, List.length_append, List.length_singleton] at hlength
    omega
  · exact ((List.pairwise_cons.mp h.apart).1 outer houter).2 hin

-- The next listing and what is found after it come upon each path once between them.
theorem add_found (h : vault.IsFront (folder :: rest)) {there : Prop} [Decidable there]
    (hparent : there → Path.parent path = "" ∨ vault.hasFolder (Path.parent path) = true) :
    (if there ∧ Path.parent path = folder then 1 else 0) +
        (if there ∧ ∃ outer ∈ childrenOf folder vault.folders ++ rest, Path.IsInside path outer
          then 1 else 0) =
      if there ∧ ∃ outer ∈ folder :: rest, Path.IsInside path outer then 1 else 0 := by
  by_cases hthere : there
  · simp only [hthere, true_and, hv.exists_isInside_iff (hparent hthere) h]
    by_cases hhere : Path.parent path = folder
    · rw [if_pos hhere, if_neg (hv.not_isInside_of_parent h hhere), if_pos (.inl hhere)]
    · simp only [hhere, if_false, false_or, Nat.zero_add]
  · simp only [hthere, false_and, if_false]

-- Whichever folder is next, a walk finds all that lies in the folders it starts from, and
-- each thing once.
theorem count_walk (hfront : vault.IsFront waiting) (h : vault.Walk waiting found) (path : String) :
    found.files.count path = (if vault.hasFile path = true ∧
      ∃ outer ∈ waiting, Path.IsInside path outer then 1 else 0) ∧
    found.folders.count path = if vault.hasFolder path = true ∧
      ∃ outer ∈ waiting, Path.IsInside path outer then 1 else 0 := by
  induction h with
  | done => simp [Listing.empty]
  | @next waiting rest folder listing found order lists onward ih =>
      have hnext := hfront.perm order
      rw [hv.perform_list (hnext.present folder List.mem_cons_self), Prod.mk.injEq,
        Except.ok.injEq] at lists
      obtain ⟨rfl, -⟩ := lists
      obtain ⟨hfiles, hfolders⟩ := ih (hv.isFront_children hnext)
      simp only [listing, List.count_append, order.mem_iff] at hfiles hfolders ⊢
      rw [hfiles, hfolders, count_childrenOf, count_childrenOf]
      exact ⟨hv.add_found hnext (hv.file_parent path), hv.add_found hnext (hv.folder_parent path)⟩

theorem exists_walk (levels : Nat) (hpresent : folder = "" ∨ vault.hasFolder folder = true)
    (hlevels : vault.folders.size < levels + (Path.segments folder).length) :
    ∃ found, vault.Walk [folder] found := by
  induction levels generalizing folder with
  | zero =>
      -- no folder has more names than there are folders
      rcases hpresent with rfl | hthere
      · rw [Path.segments_empty] at hlevels
        cases hlevels
      · have hshort := hv.length_segments_le hthere
        omega
  | succ levels ih =>
      have hchildren : ∀ inner ∈ childrenOf folder vault.folders, ∃ found, vault.Walk [inner] found := by
        intro inner hinner
        obtain ⟨name, hname⟩ := hv.segments_of_child hinner
        refine ih (.inr ((SortedMap.mem_keys _ _).mp (List.mem_of_mem_filter hinner))) ?_
        rw [hname, List.length_append, List.length_singleton]
        omega
      obtain ⟨found, hfound⟩ := Walk.exists_of_forall hchildren
      rw [← List.append_nil (childrenOf folder vault.folders)] at hfound
      exact ⟨_, .next (.refl _) (hv.perform_list hpresent) hfound⟩

theorem after (calls : List AnyCall) : (vault.after calls).IsTree := by
  induction calls generalizing vault with
  | nil => exact hv
  | cons call rest ih => exact ih (hv.perform call.2)

end IsTree

-- Whatever is called of an empty vault, it is a tree, and a call that is refused leaves it
-- as it is. From the top folder listings lead to every document and every folder once, and
-- each document that they show is read with the text that was last written.
theorem walk_exact (calls : List AnyCall) :
    let reached := Vault.empty.after calls
    reached.IsTree ∧
      (∀ {α : Type} {call : Call α} {fault : StorageFault},
        (reached.perform call).1 = .error fault → (reached.perform call).2 = reached) ∧
      (∃ found, reached.Walk [""] found) ∧
      ∀ found, reached.Walk [""] found → ∀ path,
        found.files.count path = (if reached.hasFile path = true then 1 else 0) ∧
        found.folders.count path = (if reached.hasFolder path = true then 1 else 0) ∧
        (path ∈ found.files → ∃ text,
          Vault.empty.lastWritten (fun _ => none) calls path = some text ∧
            reached.perform (.read path) = (.ok text, reached)) := by
  intro reached
  have hv : reached.IsTree := isTree_empty.after calls
  refine ⟨hv, perform_error, hv.exists_walk (reached.folders.size + 1) (.inl rfl) (by omega), ?_⟩
  intro found hwalk path
  have hinside : ∃ outer ∈ [""], Path.IsInside path outer := by
    refine ⟨"", List.mem_singleton_self _, ?_⟩
    rw [Path.IsInside, Path.segments_empty]
    exact List.nil_prefix
  obtain ⟨hfiles, hfolders⟩ := hv.count_walk reached.isFront_top hwalk path
  simp only [hinside, and_true] at hfiles hfolders
  refine ⟨hfiles, hfolders, fun hpath => ?_⟩
  have hfile : reached.hasFile path = true := by
    by_contra hmissing
    rw [if_neg hmissing] at hfiles
    exact List.count_eq_zero.mp hfiles hpath
  obtain ⟨text, hget⟩ := Option.isSome_iff_exists.mp hfile
  refine ⟨text, ?_, read_of_file (hv.file_clean path hfile) hget⟩
  exact (congrFun (Vault.empty.lastWritten_documents calls) path).trans hget

-- A document without a name, one that moved into folders that were not there, and the folder
-- that it left. A walk may turn to the second of two folders first.
theorem walk_exact_moved :
    let calls : List AnyCall := [⟨_, .write "./a//b.md" "one" .create⟩, ⟨_, .write "" "top" .overwrite⟩,
      ⟨_, .rename "a/b.md" "c/d.md"⟩, ⟨_, .write "c/d.md" "two" .create⟩, ⟨_, .delete "../c"⟩]
    let reached := Vault.empty.after calls
    (reached.perform (.delete "a")).1 = .error (.notFound "a") ∧
      (reached.perform (.delete "a")).2 = reached ∧
      reached.Walk [""] ⟨["", "c/d.md"], ["a", "c"]⟩ ∧ reached.hasFile "c/d.md" = true ∧
      reached.perform (.read "c/d.md") = (.ok "one", reached) := by
  intro calls reached
  have hrefused : (reached.perform (.delete "a")).1 = .error (.notFound "a") := by decide
  have htop : reached.perform (.list "") = (.ok ⟨[""], ["a", "c"]⟩, reached) := by decide
  have hsecond : reached.perform (.list "c") = (.ok ⟨["c/d.md"], []⟩, reached) := by decide
  have hfirst : reached.perform (.list "a") = (.ok ⟨[], []⟩, reached) := by decide
  have hwalk : reached.Walk [""] ⟨["", "c/d.md"], ["a", "c"]⟩ :=
    .next (.refl _) htop (.next (.swap _ _ _) hsecond (.next (.refl _) hfirst .done))
  obtain ⟨-, hkeeps, -, hfound⟩ := walk_exact calls
  obtain ⟨hcount, -, hread⟩ := hfound _ hwalk "c/d.md"
  have hfile : reached.hasFile "c/d.md" = true := by
    by_contra hmissing
    rw [if_neg hmissing] at hcount
    cases hcount
  have hlast : Vault.empty.lastWritten (fun _ => none) calls "c/d.md" = some "one" := by decide
  obtain ⟨text, htext, hanswer⟩ := hread (by decide)
  obtain rfl := Option.some.inj (hlast.symm.trans htext)
  exact ⟨hrefused, hkeeps hrefused, hwalk, hfile, hanswer⟩

end Vault

end NoteVault
