import NoteVault.Proofs.Registry.Operation
import NoteVault.Proofs.Registry.Reading

namespace NoteVault

variable {m : Type → Type}

-- The records of all knowledge bases may be read.
structure Contract.Scans (contract : Contract) (registry : Registry m) : Prop where
  root : contract.asks (.call (.list registry.root))
  record : ∀ listing, contract.hears (.call (.list registry.root)) (.ok listing) →
    ∀ folder ∈ listing.folders, contract.asks (.call (.read (Path.below folder Registry.recordName)))

-- Besides, the index may be read, written and removed.
structure Contract.Indexes (contract : Contract) (registry : Registry m) : Prop
    extends contract.Scans registry where
  now : contract.asks .now
  load : contract.asks (.call (.read registry.indexPath))
  save : ∀ text, contract.asks (.call (.write registry.indexPath text .overwrite))
  drop : contract.asks (.call (.delete registry.indexPath))

namespace Registry

variable [Monad m] [LawfulMonad m] {registry : Registry m} {contract : Contract}

theorem works_scan (hs : contract.Scans registry) :
    registry.Works contract registry.scan fun _ => True := by
  refine .bind (works_listingOf hs.root) fun listing hlisting => ?_
  refine .bind (.mapM fun folder hf => works_recordIn ?_) fun found _ => .pure trivial
  rcases hlisting with hh | rfl
  · exact hs.record listing hh folder hf
  · cases hf

omit [LawfulMonad m] in
theorem follows_loadIndex (hload : contract.asks (.call (.read registry.indexPath))) :
    registry.Follows contract registry.loadIndex fun _ => True := by
  refine .bind (.call hload fun _ h => h) fun answer _ => ?_
  split <;> exact .pure trivial

section

variable (hi : contract.Indexes registry)
include hi

omit [LawfulMonad m] in
theorem follows_dropIndex : registry.Follows contract registry.dropIndex fun _ => True :=
  .bind (.call hi.drop fun _ h => h) fun _ _ => .pure trivial

omit [LawfulMonad m] in
theorem follows_saveIndex (entries : List Summary) :
    registry.Follows contract (registry.saveIndex entries) fun _ => True := by
  refine .bind (.now hi.now fun _ h => h) fun updated _ => ?_
  refine .bind (.call (hi.save _) fun _ h => h) fun answer _ => ?_
  split
  · exact .pure trivial
  · exact follows_dropIndex hi

theorem follows_knownEntries : registry.Follows contract registry.knownEntries fun _ => True := by
  refine .bind (follows_loadIndex hi.load) fun found _ => ?_
  split
  · exact .pure trivial
  · refine .bind (works_scan hi.toScans) fun bases _ => ?_
    split <;> exact .pure trivial

omit [LawfulMonad m] in
theorem follows_isListed (entry : Summary) :
    registry.Follows contract (registry.isListed entry) fun _ => True :=
  .bind (follows_loadIndex hi.load) fun _ _ => .pure trivial

theorem follows_refreshIndex (entry : Summary) (attempts : Nat) :
    registry.Follows contract (registry.refreshIndex entry attempts) fun _ => True := by
  induction attempts with
  | zero => exact follows_dropIndex hi
  | succ attempts ih =>
      refine .bind (follows_knownEntries hi) fun known _ => ?_
      split
      · exact follows_dropIndex hi
      · refine .bind (follows_saveIndex hi _) fun _ _ => ?_
        refine .bind (follows_isListed hi entry) fun listed _ => ?_
        split
        · exact .pure trivial
        · exact ih

theorem works_list : registry.Works contract registry.list fun _ => True := by
  refine .bind (.lift (follows_loadIndex hi.load)) fun found _ => ?_
  split
  · exact .pure trivial
  · refine .bind (works_scan hi.toScans) fun bases _ => ?_
    dsimp only
    split
    · exact .bind (.lift (follows_saveIndex hi _)) fun _ _ => .pure trivial
    · exact .pure trivial

end

end Registry

end NoteVault
