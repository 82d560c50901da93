import NoteVault.Proofs.Constraint.RoundTrip
import NoteVault.Proofs.Registry.Apart
import NoteVault.Proofs.Registry.Documents

namespace NoteVault

open Registry Session

-- The place of the document of the constraint for a subfolder.
def constraintPlace (root name subfolder : String) : String :=
  Path.below (constraintsPlace root name) (Path.plainName subfolder ++ Path.noteExtension)

-- A place where the document of a constraint can be.
def IsDocumentPlace (root path : String) : Prop :=
  ∃ name : String, Path.IsName name.toList ∧ Path.parent path = constraintsPlace root name

namespace Path

theorem slash_notMem_plainName (subfolder : String) : '/' ∉ (plainName subfolder).toList := by
  rw [plainName, String.toList_ofList, List.mem_filter]
  exact fun h => absurd h.2 (by decide)

-- A document of a constraint is named by one part of a path, and it is a note.
theorem isName_documentName (subfolder : String) :
    IsName (plainName subfolder ++ noteExtension).toList := by
  rw [String.toList_append, show noteExtension.toList = ['.', 'm', 'd'] from rfl]
  refine ⟨fun h => ?_, fun h => ?_, fun h => ?_⟩
  · exact List.cons_ne_nil _ _ (List.append_eq_nil_iff.mp h).2
  · have hlength := congrArg List.length h
    simp at hlength
  · rcases List.mem_append.mp h with h | h
    · exact slash_notMem_plainName subfolder h
    · exact absurd h (by decide)

theorem documentName_ne_climb (subfolder : String) :
    (plainName subfolder ++ noteExtension).toList ≠ ['.', '.'] := by
  intro h
  have hlast := congrArg List.getLast? h
  rw [String.toList_append, show noteExtension.toList = ['.', 'm'] ++ ['d'] from rfl,
    ← List.append_assoc, List.getLast?_concat] at hlast
  exact absurd hlast (by decide)

theorem isNote_below_append (folder name : String) :
    isNote (below folder (name ++ noteExtension)) = true := by
  simp only [isNote, List.isSuffixOf_iff_suffix, below, String.toList_append]
  exact (List.suffix_append _ _).trans (List.suffix_append _ _)

-- Plain names keep nothing of line ends, nor of the blanks that stand for them.
theorem plainName_singleLine (text : String) : plainName (singleLine text) = plainName text := by
  simp only [plainName, singleLine, String.toList_ofList]
  congr 1
  induction text.toList with
  | nil => rfl
  | cons char chars ih =>
      by_cases hbreak : char = '\n' ∨ char = '\r'
      · rcases hbreak with rfl | rfl <;> exact ih
      · simp only [List.map_cons, if_neg hbreak, List.filter_cons, ih]

end Path

section

variable {root name other path subfolder : String}

theorem parent_constraintPlace (root name subfolder : String) :
    Path.parent (constraintPlace root name subfolder) = constraintsPlace root name :=
  Path.parent_below (Path.isName_documentName subfolder)

theorem isNote_constraintPlace (root name subfolder : String) :
    Path.isNote (constraintPlace root name subfolder) = true :=
  Path.isNote_below_append _ _

theorem clean_constraintPlace (hroot : Path.Clean root) (hne : root ≠ "")
    (hname : KnowledgeBase.checkName name = .ok ()) (subfolder : String) :
    Path.Clean (constraintPlace root name subfolder) := by
  have hfile := Path.isName_documentName subfolder
  refine (clean_constraintsPlace hroot hne hname).below
    (Path.clean_of_isName hfile (Path.documentName_ne_climb subfolder))
    (constraintsPlace_ne_empty root name) fun hempty => hfile.1 ?_
  rw [hempty]
  rfl

theorem constraintPath_inMemory {σ : Type} {policy : Policy σ} {clock : σ → Time.Instant × σ}
    (hroot : Path.normalize root = root) :
    (inMemory policy clock root).constraintPath name subfolder = constraintPlace root name subfolder := by
  rw [constraintPath, constraintFolder_inMemory hroot, constraintPlace]

-- Subfolders share a document when they share the plain name.
theorem constraintPlace_eq_iff {left right : String} :
    constraintPlace root name left = constraintPlace root name right ↔
      Path.plainName left = Path.plainName right := by
  refine ⟨fun h => ?_, fun h => by rw [constraintPlace, constraintPlace, h]⟩
  have hfile := congrArg Path.fileName h
  rw [constraintPlace, constraintPlace, Path.fileName_below (Path.isName_documentName left),
    Path.fileName_below (Path.isName_documentName right), ← String.toList_inj, String.toList_append,
    String.toList_append] at hfile
  exact String.toList_inj.mp (List.append_cancel_right hfile)

theorem constraintsPlace_injective (hname : Path.IsName name.toList) (hother : Path.IsName other.toList)
    (h : constraintsPlace root name = constraintsPlace root other) : name = other := by
  have hfile : Path.IsName "folder_constraints".toList := by decide
  have hparent := congrArg Path.parent h
  rw [constraintsPlace, constraintsPlace, Path.parent_below hfile, Path.parent_below hfile] at hparent
  have hlast := congrArg Path.fileName hparent
  rwa [Path.fileName_below hname, Path.fileName_below hother] at hlast

-- A folder of the root holds no documents of constraints.
theorem below_ne_constraintsPlace (hname : Path.IsName name.toList) (other : String) :
    Path.below root name ≠ constraintsPlace root other := by
  intro h
  have hparent := congrArg Path.parent h
  rw [constraintsPlace, Path.parent_below hname, Path.parent_below (by decide)] at hparent
  exact below_ne_self root other hparent.symm

theorem not_isDocumentPlace_recordPlace (hname : Path.IsName name.toList) :
    ¬IsDocumentPlace root (recordPlace root name) := by
  rintro ⟨other, -, h⟩
  rw [parent_recordPlace] at h
  exact below_ne_constraintsPlace hname other h

theorem not_isDocumentPlace_constraintsPlace (hname : Path.IsName name.toList) :
    ¬IsDocumentPlace root (constraintsPlace root name) := by
  rintro ⟨other, -, h⟩
  rw [constraintsPlace, Path.parent_below (by decide)] at h
  exact below_ne_constraintsPlace hname other h

theorem not_isDocumentPlace_indexPlace (root : String) : ¬IsDocumentPlace root (indexPlace root) := by
  rintro ⟨name, -, h⟩
  have hlength := congrArg (fun text : String => text.toList.length) h
  rw [indexPlace, Path.parent_below (by decide), constraintsPlace] at hlength
  simp only [Path.below, String.toList_append, List.length_append] at hlength
  have hslash : ("/" : String).toList.length = 1 := rfl
  omega

theorem not_isDocumentPlace_of_apart {folder : String} (h : Path.overlap folder root = false)
    (hw : Path.isWithin path folder = true) : ¬IsDocumentPlace root path := by
  rintro ⟨name, -, hparent⟩
  have hin : Path.isWithin path root = true := by
    refine Path.isWithin_trans (hparent ▸ Path.isWithin_parent_self ?_)
      (Path.isWithin_trans (Path.isWithin_below _ _) (Path.isWithin_below _ _))
    rw [hparent]
    exact constraintsPlace_ne_empty root name
  rw [Path.overlap_of_isWithin hw hin] at h
  cases h

theorem not_isRecordPlace_constraintPlace (hname : Path.IsName name.toList) (subfolder : String) :
    ¬IsRecordPlace root (constraintPlace root name subfolder) :=
  not_isRecordPlace_constraints _ rfl hname

end

-- The constraint that is read of a document is for a subfolder with the same plain name.
theorem Constraint.plainName_of_ofDocument {constraint found : Constraint} {name : String}
    (hnormal : Path.normalize constraint.subfolder = constraint.subfolder)
    (h : ofDocument name constraint.document = .ok found) :
    Path.plainName found.subfolder = Path.plainName constraint.subfolder := by
  rw [subfolder_of_ofDocument h, normalize_singleLine, hnormal, Path.plainName_singleLine]

end NoteVault
