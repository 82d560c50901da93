import NoteVault.Proofs.Program.Follows
import NoteVault.Proofs.Path.Scope
import NoteVault.Proofs.Storage.Effect
import NoteVault.Notes

namespace NoteVault

-- A call that stays in a folder.
def Call.Within {α : Type} (call : Call α) (folder : String) : Prop :=
  ∀ path ∈ call.paths, Path.isWithin (Path.normalize path) folder = true

variable {m : Type → Type}

namespace Contract

-- The knowledge base that the answers show on record.
def Shows (contract : Contract) (registry : Registry m) (name : String) (base : KnowledgeBase) :
    Prop :=
  ∃ text, contract.hears (.call (.read (registry.recordPath name))) (.ok text) ∧
    KnowledgeBase.ofRecord name text = .ok base

-- Everything that must be read of a knowledge base to check a note of it.
structure Serves (contract : Contract) (registry : Registry m) (name : String) : Prop where
  record : contract.asks (.call (.read (registry.recordPath name)))
  folder : contract.asks (.call (.list (registry.constraintFolder name)))
  document : ∀ listing, contract.hears (.call (.list (registry.constraintFolder name))) (.ok listing) →
    ∀ path ∈ listing.files, contract.asks (.call (.read path))

-- Besides, all work on notes in the subfolder.
structure Owns (contract : Contract) (registry : Registry m) (name : String) : Prop
    extends contract.Serves registry name where
  notes : ∀ base, contract.Shows registry name base → ∀ {α : Type} (call : Call α),
    call.Within base.subfolder → contract.asks (.call call)

end Contract

namespace Registry

variable [Monad m] [LawfulMonad m] {registry : Registry m} {contract : Contract} {name : String}

theorem works_listingOf {folder : String} (hasks : contract.asks (.call (.list folder))) :
    registry.Works contract (listingOf registry.storage folder) fun listing =>
      contract.hears (.call (.list folder)) (.ok listing) ∨ listing = .empty := by
  refine .bind (.lift (.call hasks fun _ h => h)) fun answer hh => ?_
  split
  · exact .pure (.inl hh)
  · exact .pure (.inr rfl)
  · exact .throw _

theorem works_get (hs : KnowledgeBase.checkName name = .ok () → contract.Serves registry name) :
    registry.Works contract (registry.get name) fun found => ∀ base, found = some base →
      KnowledgeBase.checkName name = .ok () ∧ contract.Shows registry name base := by
  unfold get
  split
  · exact .pure fun _ h => nomatch h
  · rename_i hname
    refine .bind (.lift (.call (hs hname).record fun _ h => h)) fun answer hh => ?_
    split
    · rename_i text
      refine .bind (.orFail fun base hb => hb) fun base hb => .pure ?_
      rintro _ ⟨⟩
      exact ⟨hname, text, hh, hb⟩
    · exact .pure fun _ h => nomatch h
    · exact .throw _

theorem works_require (hs : KnowledgeBase.checkName name = .ok () → contract.Serves registry name) :
    registry.Works contract (registry.require name) fun base =>
      KnowledgeBase.checkName name = .ok () ∧ contract.Shows registry name base := by
  refine .bind (works_get hs) fun found hfound => ?_
  split
  · exact .pure (hfound _ rfl)
  · exact .throw _

theorem works_recordIn {folder : String}
    (hasks : contract.asks (.call (.read (Path.below folder recordName)))) :
    registry.Works contract (registry.recordIn? folder) fun found => ∀ base, found = some base →
      ∃ text, contract.hears (.call (.read (Path.below folder recordName))) (.ok text) ∧
        KnowledgeBase.ofRecord (Path.fileName folder) text = .ok base := by
  refine .bind (.lift (.call hasks fun _ h => h)) fun answer hh => ?_
  split
  · rename_i text
    refine .pure fun base hb => ⟨text, hh, ?_⟩
    cases hr : KnowledgeBase.ofRecord (Path.fileName folder) text with
    | ok found =>
        rw [hr] at hb
        exact congrArg Except.ok (Option.some.inj hb)
    | error fault =>
        rw [hr] at hb
        cases hb
  · exact .pure fun _ h => nomatch h

theorem works_constraintAt {path : String} (hasks : contract.asks (.call (.read path))) :
    registry.Works contract (registry.constraintAt? name path) fun found => ∀ constraint,
      found = some constraint → ∃ text, contract.hears (.call (.read path)) (.ok text) ∧
        Constraint.ofDocument name text = .ok constraint := by
  refine .bind (.lift (.call hasks fun _ h => h)) fun answer hh => ?_
  split
  · rename_i text
    refine .pure fun constraint hc => ⟨text, hh, ?_⟩
    cases hd : Constraint.ofDocument name text with
    | ok found =>
        rw [hd] at hc
        exact congrArg Except.ok (Option.some.inj hc)
    | error fault =>
        rw [hd] at hc
        cases hc
  · exact .pure fun _ h => nomatch h

-- Every constraint that is found is what some document says.
theorem works_constraints
    (hs : KnowledgeBase.checkName name = .ok () → contract.Serves registry name) :
    registry.Works contract (registry.constraints name) fun found => ∀ constraint ∈ found,
      ∃ text, Constraint.ofDocument name text = .ok constraint := by
  refine .bind (works_require hs) fun base ⟨hname, _⟩ => ?_
  refine .bind (works_listingOf (hs hname).folder) fun listing hlisting => ?_
  refine .bind (.mapM fun path hp => works_constraintAt ?_) fun found hfound => .pure ?_
  · rcases hlisting with hh | rfl
    · exact (hs hname).document listing hh path (List.mem_of_mem_filter hp)
    · cases List.mem_of_mem_filter hp
  · intro constraint hconstraint
    obtain ⟨part, hpart, rfl⟩ := List.mem_filterMap.mp hconstraint
    obtain ⟨path, -, hread⟩ := hfound _ hpart
    obtain ⟨text, -, hdocument⟩ := hread constraint rfl
    exact ⟨text, hdocument⟩

-- Rules are written among the constraints of the knowledge base.
theorem works_addConstraint {subfolder : String} {rules : Rules}
    (hs : KnowledgeBase.checkName name = .ok () → contract.Serves registry name)
    (hwrite : KnowledgeBase.checkName name = .ok () → ∀ file text, contract.asks
      (.call (.write (Path.below (registry.constraintFolder name) file) text .overwrite))) :
    registry.Works contract (registry.addConstraint name subfolder rules) fun _ => True := by
  refine .bind (works_require hs) fun base ⟨hname, _⟩ => ?_
  refine .bind (.orFail fun _ h => h) fun folder _ => ?_
  split
  · exact .throw_bind _ _
  · refine .bind (.orFail fun _ h => h) fun _ _ => ?_
    exact .bind (.ask (hwrite hname _ _) fun _ h => h) fun _ _ => .pure trivial

theorem works_applicable {path : String}
    (hs : KnowledgeBase.checkName name = .ok () → contract.Serves registry name) :
    registry.Works contract (registry.applicable? name path) fun _ => True :=
  .bind (works_constraints hs) fun _ _ => .pure trivial

theorem works_checkNote {path content : String}
    (hs : KnowledgeBase.checkName name = .ok () → contract.Serves registry name) :
    registry.Works contract (registry.checkNote name path content) fun _ => True :=
  .bind (works_applicable hs) fun _ _ => .pure trivial

theorem works_enforce {base : KnowledgeBase} {path content : String}
    (hs : KnowledgeBase.checkName base.name = .ok () → contract.Serves registry base.name) :
    registry.Works contract (registry.enforce base path content) fun outcome =>
      outcome.path = path := by
  refine .bind (works_checkNote hs) fun found _ => ?_
  split
  · exact .pure rfl
  · split
    · exact .pure rfl
    · exact .throw _

theorem works_noteAt {raw : String}
    (hs : KnowledgeBase.checkName name = .ok () → contract.Serves registry name) :
    registry.Works contract (registry.noteAt name raw) fun found =>
      KnowledgeBase.checkName name = .ok () ∧ contract.Shows registry name found.1 ∧
        found.1.resolveNote raw = .ok found.2 := by
  refine .bind (works_require hs) fun base ⟨hname, hbase⟩ => ?_
  exact .bind (.orFail fun path hp => hp) fun path hp => .pure ⟨hname, hbase, hp⟩

theorem works_askNote {α : Type} {call : Call α} (hasks : contract.asks (.call call)) :
    registry.Works contract (registry.askNote call) fun answer =>
      contract.hears (.call call) (.ok answer) := by
  refine .bind (.lift (.call hasks fun _ h => h)) fun answer hh => ?_
  split
  · exact .pure hh
  · exact .throw _

end Registry

end NoteVault
