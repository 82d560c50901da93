import NoteVault.Pattern.Search
import NoteVault.Rules.Shape

namespace NoteVault

def filenameFault? (rules : Rules) : Option RulesFault :=
  match rules.filenamePattern? with
  | some pattern => if (Pattern.compile? pattern).isNone then some .badFilenamePattern else none
  | none => none

-- New rules need a pattern for file names that compiles and a name for each
-- field. Patterns of fields may be malformed, and are then never broken.
def Rules.check (rules : Rules) : Except RulesFault Unit :=
  match filenameFault? rules with
  | some fault => .error fault
  | none =>
    if rules.requiredFields.any fun field => Text.isAllBlank field.name then .error .blankFieldName
    else .ok ()

-- Reads rules that are to be put on record.
def Rules.checkedOfJson (value : Json.Value) : Except RulesFault Rules := do
  let rules ← ofJson value
  rules.check
  return rules

theorem Rules.checkedOfJson_eq_ok {value : Json.Value} {rules : Rules}
    (h : checkedOfJson value = .ok rules) : ofJson value = .ok rules ∧ rules.check = .ok () := by
  unfold checkedOfJson at h
  cases hjson : ofJson value with
  | error fault =>
      rw [hjson] at h
      cases h
  | ok found =>
      cases hcheck : found.check with
      | error fault =>
          simp only [hjson, bind, Except.bind, hcheck] at h
          cases h
      | ok _ =>
          simp only [hjson, bind, Except.bind, hcheck] at h
          obtain rfl := Except.ok.inj h
          exact ⟨rfl, hcheck⟩

-- A document that says nothing can be put on record, and asks for nothing.
theorem Rules.checkedOfJson_empty : checkedOfJson (.object []) = .ok empty := rfl

end NoteVault
