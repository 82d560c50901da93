import NoteVault.Proofs.Program.Ends
import NoteVault.Proofs.Registry.NoteWork
import NoteVault.Proofs.Registry.Operation
import NoteVault.Proofs.Storage.Confined
import NoteVault.Proofs.Storage.Documents

namespace NoteVault

-- The note that a path means: it lies strictly below the subfolder and is called a note.
structure KnowledgeBase.Locates (base : KnowledgeBase) (raw path : String) : Prop where
  resolved : base.resolveNote raw = .ok path
  within : Path.isWithin path base.subfolder = true
  below : path ≠ base.subfolder
  note : Path.isNote path = true

theorem KnowledgeBase.locates_of_resolveNote {base : KnowledgeBase} {raw path : String}
    (h : base.resolveNote raw = .ok path) : base.Locates raw path := by
  refine ⟨h, ?_, ?_, isNote_of_resolveNote h⟩
  · obtain ⟨rest, rfl⟩ := below_of_resolveNote h
    exact Path.isWithin_below _ _
  · obtain ⟨rest, rfl⟩ := below_of_resolveNote h
    exact Path.below_ne_self _ _

-- A text that goes on with an addition, which starts on a line of its own: a last line that
-- has no end yet gets one first.
inductive Continues (old addition : String) : String → Prop
  | closed (hend : old = "" ∨ ∃ lines, old = lines ++ "\n") : Continues old addition (old ++ addition)
  | opened (hne : old ≠ "") (hopen : ∀ lines, old ≠ lines ++ "\n") :
    Continues old addition (old ++ "\n" ++ addition)

theorem closesLine_iff (text : String) :
    (text.isEmpty || text.toList.getLast? == some '\n') = true ↔
      text = "" ∨ ∃ lines, text = lines ++ "\n" := by
  rw [Bool.or_eq_true, String.isEmpty_iff, beq_iff_eq, List.getLast?_eq_some_iff]
  refine or_congr_right ⟨?_, ?_⟩
  · rintro ⟨lines, hlines⟩
    refine ⟨String.ofList lines, String.toList_inj.mp ?_⟩
    rw [hlines, String.toList_append, String.toList_ofList]
    rfl
  · rintro ⟨lines, rfl⟩
    exact ⟨lines.toList, String.toList_append⟩

-- There is one such text.
theorem continues_iff {old addition text : String} :
    Continues old addition text ↔ text = appended old addition := by
  have hends := closesLine_iff old
  rw [appended]
  constructor
  · rintro (hend | ⟨hne, hopen⟩)
    · rw [if_pos (hends.mpr hend)]
    · rw [if_neg fun hend => (hends.mp hend).elim hne fun ⟨lines, h⟩ => hopen lines h]
  · rintro rfl
    split
    · rename_i hend
      exact .closed (hends.mp hend)
    · rename_i hend
      rw [hends, not_or, not_exists] at hend
      exact .opened hend.1 hend.2

-- The operations on notes.
def Operation.IsOfNotes {α : Type} : Operation α → Prop
  | .createNote .. | .readNote .. | .updateNote .. | .appendNote .. | .moveNote .. | .deleteNote ..
  | .listNotes .. => True
  | _ => False

-- The operation that shows a note.
def Operation.IsReading {α : Type} : Operation α → Prop
  | .readNote .. => True
  | _ => False

-- What operations on notes say of documents and do to them, where notes are bindings of
-- paths to texts. It is given which knowledge bases are known by which names. Each change
-- is to one binding, or to the two of a note that moves.
inductive Operation.Rebinds (known : String → KnowledgeBase → Prop) :
    {α : Type} → Operation α → Except Failure α → (before after : Documents) → Prop
  | created {name raw path content : String} {base : KnowledgeBase} {checked} {documents : Documents}
      (hbase : known name base) (hpath : base.Locates raw path) (hfree : documents path = none) :
      Rebinds known (.createNote name raw content) (.ok ⟨path, checked⟩) documents
        (Function.update documents path (some content))
  | updated {name raw path old content : String} {base : KnowledgeBase} {checked}
      {documents : Documents} (hbase : known name base) (hpath : base.Locates raw path)
      (hbound : documents path = some old) :
      Rebinds known (.updateNote name raw content) (.ok ⟨path, checked⟩) documents
        (Function.update documents path (some content))
  | appended {name raw path old addition text : String} {base : KnowledgeBase} {checked}
      {documents : Documents} (hbase : known name base) (hpath : base.Locates raw path)
      (hbound : documents path = some old) (htext : Continues old addition text) :
      Rebinds known (.appendNote name raw addition) (.ok ⟨path, checked⟩) documents
        (Function.update documents path (some text))
  | moved {name rawSource rawTarget source target text : String} {base : KnowledgeBase} {checked}
      {documents : Documents} (hbase : known name base) (hsource : base.Locates rawSource source)
      (htarget : base.Locates rawTarget target) (hbound : documents source = some text)
      (hfree : documents target = none) :
      Rebinds known (.moveNote name rawSource rawTarget) (.ok ⟨target, checked⟩) documents
        (Function.update (Function.update documents source none) target (some text))
  | deleted {name raw path old : String} {base : KnowledgeBase} {documents : Documents}
      (hbase : known name base) (hpath : base.Locates raw path) (hbound : documents path = some old) :
      Rebinds known (.deleteNote name raw) (.ok path) documents (Function.update documents path none)
  -- reading shows what is bound to the path that is meant, or that nothing is
  | shown {name raw path text : String} {base : KnowledgeBase} {documents : Documents}
      (hbase : known name base) (hpath : base.Locates raw path) (hbound : documents path = some text) :
      Rebinds known (.readNote name raw) (.ok ⟨path, text⟩) documents documents
  | missing {name raw path : String} {base : KnowledgeBase} {documents : Documents}
      (hbase : known name base) (hpath : base.Locates raw path) (hfree : documents path = none) :
      Rebinds known (.readNote name raw) (.error (.noteNotFound path)) documents documents
  -- where no path is meant, nothing is said of the failure
  | unlocated {name raw : String} {failure : Failure} {documents : Documents}
      (hnowhere : ∀ base path, known name base → ¬base.Locates raw path) :
      Rebinds known (.readNote name raw) (.error failure) documents documents
  | listed {name folder : String} {recursive : Bool} {paths : List String} {documents : Documents} :
      Rebinds known (.listNotes name folder recursive) (.ok paths) documents documents
  | rejected {α : Type} {operation : Operation α} {failure : Failure} {documents : Documents}
      (hchange : ¬operation.IsReading) :
      Rebinds known operation (.error failure) documents documents

namespace Registry

variable {σ : Type} {policy : Policy σ} {clock : σ → Time.Instant × σ} {root name raw : String}
  {state : σ} {vault : Vault} {known : String → KnowledgeBase → Prop}

theorem serves_reading {registry : Registry (Session σ)} :
    (Contract.reading vault).Serves registry name :=
  ⟨trivial, trivial, fun _ _ _ _ => trivial⟩

variable (hp : policy.OnlyRefuses)
include hp

theorem rebinds_listNotes (folder : String) (recursive : Bool) :
    Ends ((inMemory policy clock root).listNotes name folder recursive) state vault
      (fun paths _ after => (Operation.listNotes name folder recursive).Rebinds known (.ok paths)
        vault.documents after.documents)
      fun _ _ after => after = vault := by
  refine ((works_listNotes (fun _ => serves_reading) (fun _ => trivial) trivial).ends_reading hp).mono
    ?_ fun _ _ _ h => h
  rintro paths _ _ ⟨-, rfl⟩
  exact .listed

variable (hknown : ∀ base, KnowledgeBase.checkName name = .ok () →
  (Contract.reading vault).Shows (inMemory policy clock root) name base → known name base)
include hknown

-- Notes are where a known knowledge base has them, and to find that out changes nothing.
theorem Ends.after_noteAt {α : Type} {next : KnowledgeBase × String → Work (Session σ) α}
    {done : α → σ → Vault → Prop} {failed : Failure → σ → Vault → Prop}
    (hnext : ∀ base path state, known name base → base.Locates raw path →
      Ends (next (base, path)) state vault done failed)
    (hfailed : ∀ failure state, failed failure state vault) :
    Ends ((inMemory policy clock root).noteAt name raw >>= next) state vault done failed := by
  refine .after_reading hp (works_noteAt fun _ => serves_reading) ?_ hfailed
  rintro ⟨base, path⟩ later ⟨hname, hbase, hpath⟩
  exact hnext base path later (hknown base hname hbase) (KnowledgeBase.locates_of_resolveNote hpath)

theorem rebinds_createNote (content : String) :
    Ends ((inMemory policy clock root).createNote name raw content) state vault
      (fun outcome _ after => (Operation.createNote name raw content).Rebinds known (.ok outcome)
        vault.documents after.documents)
      fun _ _ after => after = vault := by
  refine Ends.after_noteAt hp hknown (fun base path _ hbase hpath => ?_) fun _ _ => rfl
  refine .after_reading hp (works_enforce fun _ => serves_reading) ?_ fun _ _ => rfl
  rintro outcome _ rfl
  refine .after_reading hp (.ask (by trivial) fun _ h => h) (fun present _ _ => ?_) fun _ _ => rfl
  split
  · exact .of_throw_bind rfl
  · rw [ends_bind]
    refine ends_askNote hp (fun _ _ hok => ?_) fun _ _ => rfl
    obtain ⟨hafter, hfree, -⟩ := Vault.write_ok hok
    rw [KnowledgeBase.normalize_of_resolveNote hpath.resolved] at hafter hfree
    rw [ends_pure, hafter, Vault.documents_withFile]
    exact .created hbase hpath (Vault.hasFile_eq_false_iff.mp (hfree rfl))

theorem rebinds_updateNote (content : String) :
    Ends ((inMemory policy clock root).updateNote name raw content) state vault
      (fun outcome _ after => (Operation.updateNote name raw content).Rebinds known (.ok outcome)
        vault.documents after.documents)
      fun _ _ after => after = vault := by
  refine Ends.after_noteAt hp hknown (fun base path _ hbase hpath => ?_) fun _ _ => rfl
  refine .after_reading hp (.ask (by trivial) fun _ h => h) (fun present _ _ => ?_) fun _ _ => rfl
  split
  · exact .of_throw_bind rfl
  · refine .after_reading hp (works_enforce fun _ => serves_reading) ?_ fun _ _ => rfl
    rintro outcome _ rfl
    rw [ends_bind]
    refine ends_askNote hp (fun _ _ hok => ?_) fun _ _ => rfl
    obtain ⟨hafter, -, hthere⟩ := Vault.write_ok hok
    rw [KnowledgeBase.normalize_of_resolveNote hpath.resolved] at hafter hthere
    obtain ⟨old, hold⟩ := Option.isSome_iff_exists.mp (hthere rfl)
    rw [ends_pure, hafter, Vault.documents_withFile]
    exact .updated hbase hpath hold

theorem rebinds_appendNote (addition : String) :
    Ends ((inMemory policy clock root).appendNote name raw addition) state vault
      (fun outcome _ after => (Operation.appendNote name raw addition).Rebinds known (.ok outcome)
        vault.documents after.documents)
      fun _ _ after => after = vault := by
  refine Ends.after_noteAt hp hknown (fun base path _ hbase hpath => ?_) fun _ _ => rfl
  rw [ends_bind]
  refine ends_askNote hp (fun text _ hread => ?_) fun _ _ => rfl
  obtain ⟨-, hget⟩ := Vault.read_ok hread
  rw [Vault.perform_question _ (by trivial)]
  refine .after_reading hp (works_enforce fun _ => serves_reading) ?_ fun _ _ => rfl
  rintro outcome _ rfl
  rw [ends_bind]
  refine ends_askNote hp (fun _ _ hok => ?_) fun _ _ => rfl
  obtain ⟨hafter, -⟩ := Vault.write_ok hok
  rw [KnowledgeBase.normalize_of_resolveNote hpath.resolved] at hafter hget
  rw [ends_pure, hafter, Vault.documents_withFile]
  exact .appended hbase hpath hget (continues_iff.mpr rfl)

theorem rebinds_moveNote (rawTarget : String) :
    Ends ((inMemory policy clock root).moveNote name raw rawTarget) state vault
      (fun outcome _ after => (Operation.moveNote name raw rawTarget).Rebinds known (.ok outcome)
        vault.documents after.documents)
      fun _ _ after => after = vault := by
  refine Ends.after_noteAt hp hknown (fun base source _ hbase hsource => ?_) fun _ _ => rfl
  refine .after_orFail (fun target htarget => ?_) fun _ _ => rfl
  have hlocated := KnowledgeBase.locates_of_resolveNote htarget
  refine .after_reading hp (works_askNote (by trivial)) (fun text _ _ => ?_) fun _ _ => rfl
  refine .after_reading hp (.ask (by trivial) fun _ h => h) (fun present _ _ => ?_) fun _ _ => rfl
  split
  · exact .of_throw_bind rfl
  · refine .after_reading hp (works_enforce fun _ => serves_reading) ?_ fun _ _ => rfl
    rintro outcome _ rfl
    rw [ends_bind]
    refine ends_askNote hp (fun _ _ hok => ?_) fun _ _ => rfl
    obtain ⟨text, hget, hfree, hafter⟩ := Vault.rename_ok hok
    rw [KnowledgeBase.normalize_of_resolveNote hsource.resolved] at hget hafter
    rw [KnowledgeBase.normalize_of_resolveNote htarget] at hfree hafter
    rw [ends_pure, hafter, Vault.documents_withFile, Vault.documents_withoutFile]
    exact .moved hbase hsource hlocated hget (Vault.hasFile_eq_false_iff.mp hfree)

theorem rebinds_deleteNote :
    Ends ((inMemory policy clock root).deleteNote name raw) state vault
      (fun place _ after => (Operation.deleteNote name raw).Rebinds known (.ok place)
        vault.documents after.documents)
      fun _ _ after => after = vault := by
  refine Ends.after_noteAt hp hknown (fun base path _ hbase hpath => ?_) fun _ _ => rfl
  rw [ends_bind]
  refine ends_askNote hp (fun _ _ hok => ?_) fun _ _ => rfl
  obtain ⟨hafter, hthere⟩ := Vault.delete_ok hok
  rw [KnowledgeBase.normalize_of_resolveNote hpath.resolved] at hafter hthere
  obtain ⟨old, hold⟩ := Option.isSome_iff_exists.mp hthere
  rw [ends_pure, hafter, Vault.documents_withoutFile]
  exact .deleted hbase hpath hold

theorem rebinds_readNote :
    Ends ((inMemory policy clock root).readNote name raw) state vault
      (fun note _ after => (Operation.readNote name raw).Rebinds known (.ok note)
        vault.documents after.documents)
      fun _ _ after => after = vault := by
  refine Ends.after_noteAt hp hknown (fun base path _ hbase hpath => ?_) fun _ _ => rfl
  rw [ends_bind]
  refine ends_askNote hp (fun text _ hread => ?_) fun _ _ => rfl
  obtain ⟨-, hget⟩ := Vault.read_ok hread
  rw [KnowledgeBase.normalize_of_resolveNote hpath.resolved] at hget
  rw [ends_pure, Vault.perform_question _ (by trivial)]
  exact .shown hbase hpath hget

end Registry

end NoteVault
