import NoteVault.Proofs.KnowledgeBase.Record
import NoteVault.Proofs.Registry.Reading

namespace NoteVault

-- A note at its place lies in the subfolder, and so do calls for it.
theorem KnowledgeBase.isWithin_of_resolveNote {base : KnowledgeBase} {raw path : String}
    (h : base.resolveNote raw = .ok path) :
    Path.isWithin (Path.normalize path) base.subfolder = true := by
  rw [normalize_of_resolveNote h]
  obtain ⟨rest, rfl⟩ := below_of_resolveNote h
  exact Path.isWithin_below _ _

variable {m : Type → Type} {registry : Registry m} {contract : Contract} {name : String}

theorem Contract.Shows.name_eq {base : KnowledgeBase} (h : contract.Shows registry name base) :
    name = base.name := by
  obtain ⟨text, -, hr⟩ := h
  exact (KnowledgeBase.name_of_ofRecord hr).symm

theorem Contract.Owns.asks (ho : contract.Owns registry name) {base : KnowledgeBase}
    (hbase : contract.Shows registry name base) {α : Type} {call : Call α}
    (hw : ∀ path ∈ call.paths, ∃ raw, base.resolveNote raw = .ok path) :
    contract.asks (.call call) := by
  refine ho.notes base hbase call fun path hm => ?_
  obtain ⟨raw, hp⟩ := hw path hm
  exact KnowledgeBase.isWithin_of_resolveNote hp

theorem Contract.Owns.asks_at (ho : contract.Owns registry name) {base : KnowledgeBase}
    (hbase : contract.Shows registry name base) {raw path : String}
    (hp : base.resolveNote raw = .ok path) {α : Type} {call : Call α} (hcall : call.paths = [path]) :
    contract.asks (.call call) := by
  refine ho.asks hbase fun place hplace => ⟨raw, ?_⟩
  rw [hcall] at hplace
  rw [List.mem_singleton.mp hplace]
  exact hp

namespace Registry

variable [Monad m] [LawfulMonad m] {raw content : String}

section

variable (ho : KnowledgeBase.checkName name = .ok () → contract.Owns registry name)
include ho

theorem works_createNote :
    registry.Works contract (registry.createNote name raw content) fun _ => True := by
  refine .bind (works_noteAt fun h => (ho h).toServes) fun ⟨base, path⟩ ⟨hname, hbase, hp⟩ => ?_
  refine .bind (works_enforce (hbase.name_eq ▸ fun h => (ho h).toServes)) fun outcome _ => ?_
  refine .bind (.ask ((ho hname).asks_at hbase hp rfl) fun _ h => h) fun present _ => ?_
  split
  · exact .throw_bind _ _
  · exact .bind (works_askNote ((ho hname).asks_at hbase hp rfl)) fun _ _ => .pure trivial

theorem works_readNote : registry.Works contract (registry.readNote name raw) fun _ => True := by
  refine .bind (works_noteAt fun h => (ho h).toServes) fun ⟨base, path⟩ ⟨hname, hbase, hp⟩ => ?_
  refine .bind (works_askNote ?_) fun text _ => .pure trivial
  exact (ho hname).asks_at hbase hp rfl

theorem works_updateNote :
    registry.Works contract (registry.updateNote name raw content) fun _ => True := by
  refine .bind (works_noteAt fun h => (ho h).toServes) fun ⟨base, path⟩ ⟨hname, hbase, hp⟩ => ?_
  refine .bind (.ask ((ho hname).asks_at hbase hp rfl) fun _ h => h) fun present _ => ?_
  split
  · exact .throw_bind _ _
  · refine .bind (works_enforce (hbase.name_eq ▸ fun h => (ho h).toServes)) fun outcome _ => ?_
    exact .bind (works_askNote ((ho hname).asks_at hbase hp rfl)) fun _ _ => .pure trivial

theorem works_appendNote :
    registry.Works contract (registry.appendNote name raw content) fun _ => True := by
  refine .bind (works_noteAt fun h => (ho h).toServes) fun ⟨base, path⟩ ⟨hname, hbase, hp⟩ => ?_
  refine .bind (works_askNote ((ho hname).asks_at hbase hp rfl)) fun text _ => ?_
  refine .bind (works_enforce (hbase.name_eq ▸ fun h => (ho h).toServes)) fun outcome _ => ?_
  exact .bind (works_askNote ((ho hname).asks_at hbase hp rfl)) fun _ _ => .pure trivial

theorem works_moveNote {rawTarget : String} :
    registry.Works contract (registry.moveNote name raw rawTarget) fun _ => True := by
  refine .bind (works_noteAt fun h => (ho h).toServes) fun ⟨base, source⟩ ⟨hname, hbase, hp⟩ => ?_
  refine .bind (.orFail fun target ht => ht) fun target ht => ?_
  refine .bind (works_askNote ?_) fun text _ => ?_
  · exact (ho hname).asks_at hbase hp rfl
  refine .bind (.ask ?_ fun _ h => h) fun present _ => ?_
  · exact (ho hname).asks_at hbase ht rfl
  split
  · exact .throw_bind _ _
  · refine .bind (works_enforce (hbase.name_eq ▸ fun h => (ho h).toServes)) fun outcome _ => ?_
    refine .bind (works_askNote ?_) fun _ _ => .pure trivial
    exact (ho hname).asks hbase (by simpa [Call.paths] using ⟨⟨raw, hp⟩, rawTarget, ht⟩)

theorem works_deleteNote : registry.Works contract (registry.deleteNote name raw) fun _ => True := by
  refine .bind (works_noteAt fun h => (ho h).toServes) fun ⟨base, path⟩ ⟨hname, hbase, hp⟩ => ?_
  refine .bind (works_askNote ?_) fun _ _ => .pure trivial
  exact (ho hname).asks_at hbase hp rfl

end

-- The walk over folders lists these and what their listings name, and so on.
theorem works_notesIn (places : String → Prop)
    (hasks : ∀ raw, places raw → contract.asks (.call (.list raw)))
    (hchild : ∀ raw listing, places raw → contract.hears (.call (.list raw)) (.ok listing) →
      ∀ path ∈ listing.folders, places path)
    (recursive : Bool) (levels : Nat) (folders : List String) (hin : ∀ raw ∈ folders, places raw) :
    registry.Works contract (registry.notesIn recursive levels folders) fun _ => True := by
  induction levels generalizing folders with
  | zero => exact .pure trivial
  | succ levels ih =>
      refine .bind (.mapM fun raw hr => works_listingOf (hasks raw (hin raw hr))) fun listings hl => ?_
      have hdeeper : ∀ path ∈ (if recursive then listings.flatMap Listing.folders else []),
          places path := by
        intro path hp
        split at hp
        · obtain ⟨listing, hm, hp⟩ := List.mem_flatMap.mp hp
          obtain ⟨raw, hr, hh | rfl⟩ := hl listing hm
          · exact hchild raw listing (hin raw hr) hh path hp
          · cases hp
        · cases hp
      dsimp only
      generalize (if recursive then listings.flatMap Listing.folders else []) = deeper at hdeeper
      split
      · exact .pure trivial
      · exact .bind (ih deeper hdeeper) fun notes _ => .pure trivial

theorem works_listNotes {folder : String} {recursive : Bool}
    (hs : KnowledgeBase.checkName name = .ok () → contract.Serves registry name)
    (hlist : ∀ raw, contract.asks (.call (.list raw))) (hdepth : contract.asks .depth) :
    registry.Works contract (registry.listNotes name folder recursive) fun _ => True := by
  refine .bind (works_require hs) fun base _ => ?_
  refine .bind (.orFail fun _ h => h) fun start _ => ?_
  refine .bind (.lift (.depth hdepth fun _ h => h)) fun levels _ => ?_
  refine .bind (works_notesIn (fun _ => True) (fun raw _ => hlist raw) (fun _ _ _ _ _ _ => trivial)
    recursive levels [start] fun _ _ => trivial) fun notes _ => ?_
  exact .pure trivial

end Registry

end NoteVault
