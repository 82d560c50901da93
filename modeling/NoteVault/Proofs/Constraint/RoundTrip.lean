import NoteVault.Constraint.Document
import NoteVault.Proofs.KnowledgeBase.ReadBack
import NoteVault.Proofs.Rules.ReadBlock

namespace NoteVault

open FrontMatter Json Rules Text

namespace Constraint

-- No row of a block closes the block.
theorem blockBeforeFence_rows {rows : List Row} (h : ∀ row ∈ rows, row.IsPlain)
    (rest : List (List Char)) :
    blockBeforeFence (rows.map Row.chars ++ fence :: rest) = some (rowsChars rows) := by
  induction rows with
  | nil => rw [List.map_nil, List.nil_append, blockBeforeFence, if_pos (by decide)]; rfl
  | cons row rows ih =>
      obtain ⟨hrow, hrows⟩ := List.forall_mem_cons.mp h
      have hother : trim row.chars ≠ fence := by
        rw [hrow.trim]
        intro htext
        exact (hrow.head '\x60' (by rw [htext]; rfl)).2 rfl
      rw [List.map_cons, List.cons_append, blockBeforeFence, if_neg hother, ih hrows, rowsChars_cons]
      rfl

-- What a constraint has below its header.
def documentBody (rules : Rules) : List Char :=
  '\n' :: (fence ++ "yaml".toList ++ '\n' :: (rowsChars rules.rows ++ (fence ++ ['\n'])))

theorem fencedBlock?_documentBody {rules : Rules} (h : rules.IsReadable) :
    fencedBlock? (String.ofList (documentBody rules)) = some rules.toBlock := by
  have hlines : lines (documentBody rules) =
      [] :: (fence ++ "yaml".toList) :: (rules.rows.map Row.chars ++ [fence]) := by
    have hempty : ∀ rest, lines ('\n' :: rest) = [] :: lines rest :=
      @lines_line [] (by decide)
    have hclose : lines (fence ++ ['\n']) = [fence] := by decide
    rw [documentBody, hempty, lines_line (by decide), lines_rowsChars h.isPlain, hclose]
  have hskip : opensBlock [] = false := by decide
  have hfence : opensBlock (fence ++ "yaml".toList) = true := by decide
  rw [fencedBlock?, String.toList_ofList, hlines, List.dropWhile_cons_of_pos (by rw [hskip]; rfl),
    List.dropWhile_cons_of_neg (by rw [hfence]; decide)]
  simp only [blockBeforeFence_rows h.isPlain, Option.map_some, ← toList_toBlock, String.ofList_toList]

theorem toList_document (constraint : Constraint) :
    constraint.document.toList = delimiter ++ '\n' ::
      (headerText [("subfolder", constraint.subfolder)] ++
        (delimiter ++ '\n' :: documentBody constraint.rules)) := by
  have hopen : ("---\n" : String).toList = delimiter ++ ['\n'] := rfl
  have hclose : ("---\n\n" : String).toList = delimiter ++ ['\n', '\n'] := rfl
  have hlanguage : ("yaml\n" : String).toList = "yaml".toList ++ ['\n'] := by decide
  have hend : ("\n" : String).toList = ['\n'] := rfl
  simp only [document, String.toList_append, String.toList_ofList, toList_headerLine, hopen, hclose,
    hlanguage, hend, toList_toBlock, documentBody, headerText, List.flatMap_cons, List.flatMap_nil,
    List.append_assoc, List.cons_append, List.nil_append, List.append_nil]

-- The one field of a document, and what is below its header.
theorem ofText_document (constraint : Constraint) :
    Note.ofText constraint.document =
      ⟨Keyed.ofList [("subfolder", .string (singleLine constraint.subfolder))],
        String.ofList (documentBody constraint.rules), constraint.document⟩ := by
  have hkeys : ∀ entry ∈ [("subfolder", constraint.subfolder)], IsFieldName entry.1 := by
    intro entry hentry
    rw [List.mem_singleton.mp hentry]
    exact show IsFieldName "subfolder" by decide
  exact ofText_header hkeys constraint.toList_document

theorem requiredText_subfolder (owner folder : String) :
    requiredText owner "subfolder" (Keyed.ofList [("subfolder", Value.string folder)]) = .ok folder :=
  rfl

-- The document of a constraint means what the shape of its rules means.
theorem ofDocument_readable {constraint : Constraint} (h : constraint.rules.IsReadable) :
    ofDocument constraint.knowledgeBase constraint.document =
      match Rules.ofJson constraint.rules.toJson with
      | .ok rules =>
        .ok ⟨constraint.knowledgeBase, Path.normalize (singleLine constraint.subfolder), rules⟩
      | .error fault => .error (.badRules (Path.normalize (singleLine constraint.subfolder)) fault) := by
  have hblock : ∀ folder, blockOf folder (String.ofList (documentBody constraint.rules)) =
      .ok constraint.rules.toBlock := by
    intro folder
    rw [blockOf, fencedBlock?_documentBody h]
  simp only [ofDocument, ofText_document, bind, Except.bind, requiredText_subfolder, hblock,
    h.readBlock]
  cases Rules.ofJson constraint.rules.toJson <;> rfl

-- A constraint whose rules can be written is read back: its subfolder in normal form,
-- its rules as they are.
theorem ofDocument_document {constraint : Constraint} (h : constraint.rules.IsWritable) :
    ofDocument constraint.knowledgeBase constraint.document =
      .ok { constraint with subfolder := Path.normalize (singleLine constraint.subfolder) } := by
  rw [ofDocument_readable h.isReadable, ofJson_toJson_of_isShaped h.shaped]

theorem ofDocument_of_normal (constraint : Constraint) (h : constraint.rules.IsWritable)
    (hnormal : Path.normalize constraint.subfolder = constraint.subfolder)
    (hline : IsSingleLine constraint.subfolder) :
    ofDocument constraint.knowledgeBase constraint.document = .ok constraint := by
  rw [ofDocument_document h, singleLine_eq hline, hnormal]

-- Whatever constraint is read of the document that was written for another one, it is
-- for the same subfolder but for line ends.
theorem subfolder_of_ofDocument {constraint found : Constraint} {name : String}
    (h : ofDocument name constraint.document = .ok found) :
    found.subfolder = Path.normalize (singleLine constraint.subfolder) := by
  simp only [ofDocument, ofText_document, bind, Except.bind, requiredText_subfolder] at h
  split at h
  · cases h
  · split at h
    · cases h
    · split at h
      · rw [← Except.ok.inj h]
      · cases h

-- Constraints come back from their documents, whatever rules they have: any names,
-- patterns and titles, any lengths, and any scalars that read back alone.
theorem ofDocument_roundTrip (constraint : Constraint) {value : Value}
    (hwords : value.fitsWords = true) (hrules : Rules.ofJson value = .ok constraint.rules)
    (hdoubles : ∀ field ∈ constraint.rules.requiredFields, ∀ values,
      field.allowedValues = some values → ∀ double, .number (.double double) ∈ values →
        read (Value.number (.double double)).compact = some (.number (.double double))) :
    ofDocument constraint.knowledgeBase constraint.document =
        .ok { constraint with subfolder := Path.normalize (singleLine constraint.subfolder) } ∧
      (Path.normalize constraint.subfolder = constraint.subfolder →
        IsSingleLine constraint.subfolder →
          ofDocument constraint.knowledgeBase constraint.document = .ok constraint) := by
  have hwritable : constraint.rules.IsWritable :=
    ⟨isShaped_of_ofJson hrules, fitsWords_of_ofJson hwords hrules, hdoubles⟩
  exact ⟨ofDocument_document hwritable, ofDocument_of_normal constraint hwritable⟩

-- Texts that look like items, keys, comments and fences, and a folder with a line end.
theorem ofDocument_roundTrip_marks :
    let half : Value := .number (.double ⟨false, 4503599627370496, -53⟩)
    let allowed : List Value := [.null, .bool true, .number (.integer (-7)), half, .string "a\nb"]
    let field : RequiredField := ⟨"- \"key\": \\ #", .string, some "```\n---", some allowed⟩
    let rules : Rules := ⟨some ⟨some [field]⟩, some ⟨none⟩,
      some ⟨none, some 18446744073709551615, some ["# a: b", "```", ""]⟩⟩
    let constraint : Constraint := ⟨"team", "docs//a\nb", rules⟩
    rules.toJson.fitsWords = true ∧ Rules.ofJson rules.toJson = .ok rules ∧
      ofDocument "team" constraint.document = .ok ⟨"team", "docs/a b", rules⟩ ∧
      ofDocument "team" (Constraint.mk "team" "docs/a b" rules).document =
        .ok ⟨"team", "docs/a b", rules⟩ := by
  intro half allowed field rules constraint
  have hwords : rules.toJson.fitsWords = true := by decide
  have hrules : Rules.ofJson rules.toJson = .ok rules := by decide
  have hhalf : read half.compact = some half := by decide +kernel
  have hdoubles : ∀ field ∈ rules.requiredFields, ∀ values, field.allowedValues = some values →
      ∀ double, .number (.double double) ∈ values →
        read (Value.number (.double double)).compact = some (.number (.double double)) := by
    intro other hother values hvalues double hdouble
    obtain rfl := List.mem_singleton.mp hother
    obtain rfl := Option.some.inj hvalues
    obtain heq : Value.number (.double double) = half := by
      simpa [allowed, half] using hdouble
    rw [heq]
    exact hhalf
  have hfolder : Path.normalize (singleLine constraint.subfolder) = "docs/a b" := by decide
  have hread := (ofDocument_roundTrip constraint hwords hrules hdoubles).1
  rw [hfolder] at hread
  have hsame := (ofDocument_roundTrip ⟨"team", "docs/a b", rules⟩ hwords hrules hdoubles).2
    (by decide) (by decide)
  exact ⟨hwords, hrules, hread, hsame⟩

end Constraint

end NoteVault
