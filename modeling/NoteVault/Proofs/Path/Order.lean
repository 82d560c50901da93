import Mathlib.Order.Preorder.Chain
import NoteVault.Proofs.Path.Containment

namespace NoteVault.Path

-- A path in normal form that names something. It may climb.
@[ext]
structure Place where
  path : String
  normal : normalize path = path
  nonempty : path ≠ ""

namespace Place

variable (place folder left right : Place)

theorem parts_eq : parts place.path = segments place.path :=
  parts_eq_segments place.normal place.nonempty

-- Though it compares characters, containment is about whole names: the folder's are the
-- first of the path's.
theorem isWithin_iff_parts :
    isWithin place.path folder.path = true ↔ parts folder.path <+: parts place.path := by
  rw [parts_eq, parts_eq]
  exact ⟨segments_prefix_of_isWithin,
    isWithin_of_segments_prefix place.normal folder.normal folder.nonempty⟩

-- A place is at most each folder that it lies in.
instance : PartialOrder Place where
  le place folder := isWithin place.path folder.path = true
  le_refl place := isWithin_self place.path
  le_trans _ _ _ := isWithin_trans
  le_antisymm _ _ hleft hright := Place.ext (isWithin_antisymm hleft hright)

theorem overlap_iff : overlap left.path right.path = true ↔ left ≤ right ∨ right ≤ left := by
  rw [overlap, Bool.or_eq_true]
  rfl

-- Of two folders around one place, one lies in the other.
theorem isChain_around : IsChain (· ≤ ·) (Set.Ici place) := by
  intro first hfirst second hsecond _
  exact (overlap_iff first second).mp (overlap_of_isWithin hfirst hsecond)

-- Folders collide exactly when they have a path in common. Containment compares the names
-- of two paths one by one, and so is a partial order in which the folders around a path are
-- in line.
theorem overlap_iff_shared :
    (overlap left.path right.path = true ↔ ∃ path, normalize path = path ∧
      isWithin path left.path = true ∧ isWithin path right.path = true) ∧
    (isWithin place.path folder.path = true ↔ parts folder.path <+: parts place.path) ∧
    IsPartialOrder Place (fun place folder => isWithin place.path folder.path = true) ∧
    IsChain (fun inner outer => isWithin inner.path outer.path = true)
      {folder : Place | isWithin place.path folder.path = true} := by
  refine ⟨⟨fun h => ?_, ?_⟩, isWithin_iff_parts place folder,
    inferInstanceAs (IsPartialOrder Place (· ≤ ·)), isChain_around place⟩
  · -- the inner one of the two is in both
    rcases (overlap_iff left right).mp h with hleft | hright
    · exact ⟨left.path, left.normal, isWithin_self _, hleft⟩
    · exact ⟨right.path, right.normal, hright, isWithin_self _⟩
  · rintro ⟨path, -, hleft, hright⟩
    exact overlap_of_isWithin hleft hright

-- A folder, one in it and a note there, and a folder whose name only begins alike.
theorem overlap_iff_shared_docs :
    let docs : Place := ⟨"docs", by decide, by decide⟩
    let api : Place := ⟨"docs/api", by decide, by decide⟩
    let page : Place := ⟨"docs/api/index.md", by decide, by decide⟩
    let drafts : Place := ⟨"docs-old", by decide, by decide⟩
    (∃ path, normalize path = path ∧ isWithin path docs.path = true ∧ isWithin path api.path = true) ∧
      (¬∃ path, normalize path = path ∧ isWithin path docs.path = true ∧
        isWithin path drafts.path = true) ∧
      parts docs.path <+: parts page.path ∧ ¬parts drafts.path <+: parts page.path ∧
      IsChain (fun inner outer => isWithin inner.path outer.path = true)
        {folder : Place | isWithin page.path folder.path = true} := by
  intro docs api page drafts
  obtain ⟨hshared, hparts, -, hchain⟩ := overlap_iff_shared page docs docs api
  obtain ⟨happart, hother, -, -⟩ := overlap_iff_shared page drafts docs drafts
  refine ⟨hshared.mp (by decide), fun h => ?_, hparts.mp (by decide), fun h => ?_, hchain⟩
  · exact absurd (happart.mpr h) (by decide)
  · exact absurd (hother.mpr h) (by decide)

end Place

end NoteVault.Path
