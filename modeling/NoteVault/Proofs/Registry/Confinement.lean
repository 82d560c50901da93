import NoteVault.Proofs.KnowledgeBase.Record
import NoteVault.Proofs.Registry.Atomicity
import NoteVault.Proofs.Registry.Scan
import NoteVault.Proofs.Storage.Confined
import NoteVault.Settings

namespace NoteVault

open Registry Session

variable {places : String → Prop}

-- The contract of work that changes certain places only. Its calls may be refused.
def Contract.confined (vault : Vault) (places : String → Prop) : Contract where
  asks
    | .call call => ∀ path ∈ call.places, places path
    | .now => True
    | .depth => True
  hears
    | .call call, answer => (∃ now, vault.Confined places now ∧ answer = (now.perform call).1) ∨
      ∃ fault, answer = .error fault
    | .now, _ => True
    | .depth, _ => True

theorem Call.mem_places {α : Type} {call : Call α} {place : String} (h : place ∈ call.places) :
    ∃ path ∈ call.paths, place = Path.normalize path := by
  cases call with
  | read | list | isPresent => cases h
  | write path | delete path | createFolder path =>
      exact ⟨path, List.mem_singleton_self path, List.mem_singleton.mp h⟩
  | rename source target =>
      rcases List.mem_pair.mp h with rfl | rfl
      · exact ⟨source, by simp [Call.paths], rfl⟩
      · exact ⟨target, by simp [Call.paths], rfl⟩

section

variable {σ α : Type} {policy : Policy σ} {clock : σ → Time.Instant × σ} {root name : String}
  {state : σ} {vault : Vault} {work : Work (Session σ) α} {post : α → Prop}

theorem Registry.Works.ends_confined (hp : policy.OnlyRefuses)
    (h : (inMemory policy clock root).Works (.confined vault places) work post) :
    Ends work state vault (fun value _ after => post value ∧ vault.Confined places after)
      fun _ _ after => vault.Confined places after := by
  refine h.ends (fun _ after => vault.Confined places after) ?_ (.refl vault)
  intro β event hasks state now hnow
  cases event with
  | call call =>
      obtain ⟨next, hrun | ⟨fault, hrun⟩⟩ :=
        respond_mayRefuse clock root (hp call) state now
      · simp only [result, vaultAfter, hrun]
        exact ⟨.inl ⟨now, hnow, rfl⟩, hnow.trans ((now.confined_perform call).mono hasks)⟩
      · simp only [result, vaultAfter, hrun]
        exact ⟨.inr ⟨fault, rfl⟩, hnow⟩
  | now => exact ⟨trivial, hnow⟩
  | depth => exact ⟨trivial, hnow⟩

theorem serves_confined {registry : Registry (Session σ)} :
    (Contract.confined vault places).Serves registry name := by
  refine ⟨?_, ?_, fun _ _ _ _ => ?_⟩ <;> exact fun _ h => absurd h List.not_mem_nil

-- The settings allow the roots that are clean and not empty, and no others.
theorem Settings.exists_rootOf_iff :
    (∃ valueOf?, Settings.rootOf valueOf? = .ok root) ↔ Path.Clean root ∧ root ≠ "" := by
  constructor
  · rintro ⟨valueOf?, h⟩
    unfold rootOf at h
    split at h
    · obtain rfl := Except.ok.inj h
      exact ⟨⟨by decide, by decide⟩, by decide⟩
    · rename_i raw hraw
      dsimp only at h
      split at h
      · cases h
      · rename_i hroot
        obtain rfl := Except.ok.inj h
        rw [Bool.or_eq_true, not_or, Bool.not_eq_true, Bool.not_eq_true] at hroot
        refine ⟨⟨Path.normalize_normalize raw, hroot.2⟩, fun hempty => ?_⟩
        rw [hempty] at hroot
        cases hroot.1
  · rintro ⟨hclean, hne⟩
    refine ⟨fun _ => some root, ?_⟩
    simp [rootOf, hclean.normal, hclean.stays, String.isEmpty_eq_false_iff.mpr hne]

-- The folder of a name in the root, and the record in it, are at clean places.
theorem clean_folder_of_checkName (hroot : Path.Clean root) (hne : root ≠ "")
    (hname : KnowledgeBase.checkName name = .ok ()) : Path.Clean (Path.below root name) := by
  obtain ⟨hn, hd⟩ := KnowledgeBase.isName_of_checkName hname
  have hempty : name ≠ "" := fun h => hn.1 (by rw [h]; rfl)
  exact hroot.below (Path.clean_of_isName hn hd) hne hempty

theorem clean_recordPlace_of_checkName (hroot : Path.Clean root) (hne : root ≠ "")
    (hname : KnowledgeBase.checkName name = .ok ()) : Path.Clean (recordPlace root name) :=
  clean_recordPlace (clean_folder_of_checkName hroot hne hname)

-- What is read as the record of a name is the document in its place.
theorem keeps_of_read (hroot : Path.Clean root) (hne : root ≠ "")
    (hname : KnowledgeBase.checkName name = .ok ()) {text : String} {base : KnowledgeBase}
    (hread : (vault.perform (.read ((inMemory policy clock root).recordPath name))).1 = .ok text)
    (hrecord : KnowledgeBase.ofRecord name text = .ok base) :
    base.name = name ∧ vault.Keeps root base := by
  have hsame := KnowledgeBase.name_of_ofRecord hrecord
  subst hsame
  rw [recordPath_inMemory hroot.normal,
    Vault.read_eq_ok (clean_recordPlace_of_checkName hroot hne hname)] at hread
  exact ⟨rfl, (KnowledgeBase.isName_of_checkName hname).1, text, hread, hrecord⟩

-- A record outside the places is found as it was.
theorem keeps_of_shows (hroot : Path.Clean root) (hne : root ≠ "")
    (hname : KnowledgeBase.checkName name = .ok ()) (hplace : ¬places (recordPlace root name))
    {base : KnowledgeBase}
    (hbase : (Contract.confined vault places).Shows (inMemory policy clock root) name base) :
    base.name = name ∧ vault.Keeps root base := by
  obtain ⟨text, ⟨now, hnow, hread⟩ | ⟨fault, hread⟩, hrecord⟩ := hbase
  · obtain ⟨hsame, hn, text, hget, hrecord⟩ := keeps_of_read hroot hne hname hread.symm hrecord
    rw [hnow.file _ (hsame ▸ hplace)] at hget
    exact ⟨hsame, hn, text, hget, hrecord⟩
  · cases hread

-- So it is where reading is all that is done.
theorem keeps_of_shows_reading (hroot : Path.Clean root) (hne : root ≠ "")
    (hname : KnowledgeBase.checkName name = .ok ()) {base : KnowledgeBase}
    (hbase : (Contract.reading vault).Shows (inMemory policy clock root) name base) :
    base.name = name ∧ vault.Keeps root base := by
  obtain ⟨text, hread | ⟨fault, hread⟩, hrecord⟩ := hbase
  · exact keeps_of_read hroot hne hname hread.symm hrecord
  · cases hread

theorem ends_require (hp : policy.OnlyRefuses) (hroot : Path.Clean root) (hne : root ≠ "") :
    Ends ((inMemory policy clock root).require name) state vault
      (fun base _ after => after = vault ∧ KnowledgeBase.checkName name = .ok () ∧ base.name = name ∧
        vault.Keeps root base)
      fun _ _ after => after = vault := by
  refine ((works_require fun _ => serves_reading).ends_reading hp).mono ?_ fun _ _ _ h => h
  rintro base next after ⟨⟨hname, hbase⟩, rfl⟩
  exact ⟨rfl, hname, keeps_of_shows_reading hroot hne hname hbase⟩

end

-- The places hold all notes of a knowledge base of the name, and not its record.
structure Vault.Lends (vault : Vault) (root name : String) (places : String → Prop) : Prop where
  record : KnowledgeBase.checkName name = .ok () → ¬places (recordPlace root name)
  notes : ∀ base, vault.Keeps root base → base.name = name → ∀ path,
    Path.isWithin path base.subfolder = true → places path

-- The places hold all that work for a knowledge base of the name may change, and
-- not its record.
structure Vault.Grants (vault : Vault) (root name : String) (places : String → Prop) : Prop
    extends vault.Lends root name places where
  constraints : KnowledgeBase.checkName name = .ok () → ∀ file,
    places (Path.normalize (Path.below (Path.below (Path.below root name) "folder_constraints") file))

-- The operations that write records.
def Operation.WritesRecord {α : Type} : Operation α → Prop
  | .add _ | .update .. => True
  | _ => False

-- The operation that writes constraints.
def Operation.WritesConstraint {α : Type} : Operation α → Prop
  | .addConstraint .. => True
  | _ => False

section

variable {σ α : Type} {policy : Policy σ} {clock : σ → Time.Instant × σ} {root name : String}
  {state : σ} {vault : Vault}

theorem owns_confined (hroot : Path.Clean root) (hne : root ≠ "")
    (hlends : vault.Lends root name places) (hname : KnowledgeBase.checkName name = .ok ()) :
    (Contract.confined vault places).Owns (inMemory policy clock root) name := by
  refine ⟨serves_confined, fun base hbase α call hwithin place hplace => ?_⟩
  obtain ⟨hsame, hkeeps⟩ := keeps_of_shows hroot hne hname (hlends.record hname) hbase
  obtain ⟨path, hpath, rfl⟩ := Call.mem_places hplace
  exact hlends.notes base hkeeps hsame _ (hwithin path hpath)

theorem indexes_confined (hindex : places (Path.normalize (inMemory policy clock root).indexPath)) :
    (Contract.confined vault places).Indexes (inMemory policy clock root) where
  root := fun _ h => absurd h List.not_mem_nil
  record := fun _ _ _ _ _ h => absurd h List.not_mem_nil
  now := trivial
  load := fun _ h => absurd h List.not_mem_nil
  save := fun _ _ h => List.mem_singleton.mp h ▸ hindex
  drop := fun _ h => List.mem_singleton.mp h ▸ hindex

theorem works_lent (hroot : Path.Clean root) (hne : root ≠ "") {operation : Operation α}
    (hkind : ¬operation.WritesRecord) (hrules : ¬operation.WritesConstraint)
    (hlends : ∀ name, operation.target? = some name → vault.Lends root name places)
    (hindex : operation.target? = none →
      places (Path.normalize (inMemory policy clock root).indexPath)) :
    (inMemory policy clock root).Works (.confined vault places)
      ((inMemory policy clock root).carryOut operation) fun _ => True := by
  have howns : ∀ name, operation.target? = some name → KnowledgeBase.checkName name = .ok () →
      (Contract.confined vault places).Owns (inMemory policy clock root) name :=
    fun name htarget hname => owns_confined hroot hne (hlends name htarget) hname
  cases operation with
  | add | update => exact (hkind trivial).elim
  | addConstraint => exact (hrules trivial).elim
  | list => exact works_list (indexes_confined (hindex rfl))
  | get name => exact (works_get fun _ => serves_confined).mono fun _ _ => trivial
  | constraints name => exact (works_constraints fun _ => serves_confined).mono fun _ _ => trivial
  | checkNote name path content => exact works_checkNote fun _ => serves_confined
  | createNote name raw content => exact works_createNote (howns name rfl)
  | readNote name raw => exact works_readNote (howns name rfl)
  | updateNote name raw content => exact works_updateNote (howns name rfl)
  | appendNote name raw addition => exact works_appendNote (howns name rfl)
  | moveNote name rawSource rawTarget => exact works_moveNote (howns name rfl)
  | deleteNote name raw => exact works_deleteNote (howns name rfl)
  | listNotes name folder recursive =>
      exact works_listNotes (fun _ => serves_confined) (fun _ _ h => absurd h List.not_mem_nil) trivial

theorem works_confined (hroot : Path.Clean root) (hne : root ≠ "") {operation : Operation α}
    (hkind : ¬operation.WritesRecord)
    (hgrants : ∀ name, operation.target? = some name → vault.Grants root name places)
    (hindex : operation.target? = none →
      places (Path.normalize (inMemory policy clock root).indexPath)) :
    (inMemory policy clock root).Works (.confined vault places)
      ((inMemory policy clock root).carryOut operation) fun _ => True := by
  by_cases hrules : operation.WritesConstraint
  · cases operation with
    | addConstraint name subfolder rules =>
        refine works_addConstraint (fun _ => serves_confined) fun hname file text place hplace => ?_
        rw [List.mem_singleton.mp hplace, constraintFolder, Registry.folder, root_inMemory,
          hroot.normal]
        exact (hgrants name rfl).constraints hname file
    | _ => exact hrules.elim
  · exact works_lent hroot hne hkind hrules (fun name htarget => (hgrants name htarget).toLends) hindex

end

end NoteVault
