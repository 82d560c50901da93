import NoteVault.Proofs.Registry.ByName
import NoteVault.Proofs.Registry.Operation

namespace NoteVault

-- A knowledge base but for the time when it was made.
def KnowledgeBase.timeless (base : KnowledgeBase) : NewKnowledgeBase :=
  ⟨base.name, base.description, base.subfolder, base.organizationRules⟩

-- The knowledge bases of a vault, but for the times, in the order of their names. They
-- decide what additions and updates come to, and no index is in sight.
abbrev Ledger := List NewKnowledgeBase

namespace Ledger

def named? (ledger : Ledger) (name : String) : Option NewKnowledgeBase :=
  ledger.find? fun base => base.name == name

def checkExclusive (ledger : Ledger) (root name folder : String) : Except Failure Unit :=
  if Path.overlap folder root then .error (.badPath (.reserved folder root))
  else
    match ledger.find? fun base => base.name != name && Path.overlap folder base.subfolder with
    | some other => .error (.subfolderOverlap folder other.name other.subfolder)
    | none => .ok ()

-- The knowledge base that an addition makes.
def add (ledger : Ledger) (root : String) (wish : NewKnowledgeBase) :
    Except Failure NewKnowledgeBase := do
  (KnowledgeBase.checkName wish.name).mapError .badInput
  let folder ← (Path.folder wish.subfolder).mapError .badPath
  if (ledger.named? wish.name).isSome then throw (.knowledgeBaseExists wish.name)
  ledger.checkExclusive root wish.name folder
  return ⟨wish.name, wish.description, folder, Text.trimmed wish.organizationRules⟩

-- The subfolder of a knowledge base when another one may be asked for.
def folderOf (ledger : Ledger) (root : String) (base : NewKnowledgeBase) :
    Option String → Except Failure String
  | none => return base.subfolder
  | some raw => do
    let folder ← (Path.folder raw).mapError .badPath
    if folder ≠ base.subfolder then ledger.checkExclusive root base.name folder
    return folder

-- The knowledge base that an update leaves.
def update (ledger : Ledger) (root name : String) (change : KnowledgeBaseChange) :
    Except Failure NewKnowledgeBase := do
  let some base := ledger.named? name | throw (.knowledgeBaseNotFound name)
  let folder ← ledger.folderOf root base change.subfolder
  return ⟨base.name, change.description.getD base.description, folder,
    (change.organizationRules.map Text.trimmed).getD base.organizationRules⟩

-- The ledger with a knowledge base in the place of the one of its name.
def put (ledger : Ledger) (base : NewKnowledgeBase) : Ledger :=
  (base :: ledger.filter fun other => other.name != base.name).mergeSort
    fun left right => left.name ≤ right.name

def putIfOk (ledger : Ledger) : Except Failure NewKnowledgeBase → Ledger
  | .ok base => ledger.put base
  | .error _ => ledger

-- What an operation makes of the ledger.
def after (ledger : Ledger) (root : String) {α : Type} : Operation α → Ledger
  | .add wish => ledger.putIfOk (ledger.add root wish)
  | .update name change => ledger.putIfOk (ledger.update root name change)
  | _ => ledger

def afterAll (root : String) (orders : List Order) (ledger : Ledger) : Ledger :=
  orders.foldl (fun ledger order => ledger.after root order.2) ledger

variable {ledger : Ledger} {base : NewKnowledgeBase} {root name folder : String}

theorem add_eq {wish : NewKnowledgeBase} (hname : KnowledgeBase.checkName wish.name = .ok ())
    (hfolder : Path.folder wish.subfolder = .ok folder) :
    ledger.add root wish =
      if (ledger.named? wish.name).isSome then .error (.knowledgeBaseExists wish.name)
      else (ledger.checkExclusive root wish.name folder).map fun _ =>
        ⟨wish.name, wish.description, folder, Text.trimmed wish.organizationRules⟩ := by
  rw [add, hname, hfolder]
  simp only [Except.mapError, bind, Except.bind]
  split
  · rfl
  · cases ledger.checkExclusive root wish.name folder <;> rfl

theorem update_eq {change : KnowledgeBaseChange} (hnamed : ledger.named? name = some base) :
    ledger.update root name change =
      (ledger.folderOf root base change.subfolder).map fun folder =>
        ⟨base.name, change.description.getD base.description, folder,
          (change.organizationRules.map Text.trimmed).getD base.organizationRules⟩ := by
  rw [update, hnamed]
  dsimp only
  cases ledger.folderOf root base change.subfolder <;> rfl

theorem folderOf_some {raw : String} (h : Path.folder raw = .ok folder) :
    ledger.folderOf root base (some raw) =
      if folder = base.subfolder then .ok folder
      else (ledger.checkExclusive root base.name folder).map fun _ => folder := by
  rw [folderOf, h]
  by_cases hsame : folder = base.subfolder
  · rw [if_pos hsame, hsame]
    simp only [Except.mapError, bind, Except.bind, ne_eq, not_true_eq_false, if_false]
    rfl
  · rw [if_neg hsame]
    simp only [Except.mapError, bind, Except.bind, ne_eq, hsame, not_false_eq_true, if_true]
    cases ledger.checkExclusive root base.name folder <;> rfl

theorem mem_put {item : NewKnowledgeBase} :
    item ∈ ledger.put base ↔ item = base ∨ item.name ≠ base.name ∧ item ∈ ledger := by
  simp [put, List.mem_mergeSort, and_comm]

theorem byName_put (h : ByName NewKnowledgeBase.name ledger) :
    ByName NewKnowledgeBase.name (ledger.put base) := by
  refine byName_mergeSort ?_
  rw [List.map_cons, List.nodup_cons]
  constructor
  · simp
  · exact h.nodup.sublist (List.filter_sublist.map _)

end Ledger

section

variable {base : KnowledgeBase} {bases others : List KnowledgeBase} {root name folder : String}

theorem named?_timeless : Ledger.named? (bases.map KnowledgeBase.timeless) name =
    (bases.find? fun base => base.name == name).map KnowledgeBase.timeless := by
  rw [Ledger.named?, List.find?_map]
  rfl

theorem checkExclusive_timeless {m : Type → Type} {registry : Registry m} :
    registry.checkExclusive name folder bases =
      Ledger.checkExclusive (bases.map KnowledgeBase.timeless) registry.root name folder := by
  have hfind : (bases.map KnowledgeBase.timeless).find? (fun base =>
      base.name != name && Path.overlap folder base.subfolder) = (bases.find? fun base =>
        base.name != name && Path.overlap folder base.subfolder).map KnowledgeBase.timeless := by
    rw [List.find?_map]
    rfl
  rw [Registry.checkExclusive, Ledger.checkExclusive, hfind]
  cases bases.find? fun base => base.name != name && Path.overlap folder base.subfolder <;> rfl

-- A ledger keeps up with the record of one knowledge base.
theorem put_timeless (hbases : ByName KnowledgeBase.name bases)
    (hothers : ByName KnowledgeBase.name others) (hput : IsPut base bases others) :
    Ledger.put (bases.map KnowledgeBase.timeless) base.timeless =
      others.map KnowledgeBase.timeless := by
  have hold : ByName NewKnowledgeBase.name (bases.map KnowledgeBase.timeless) :=
    hbases.map fun _ => rfl
  have hnew : ByName NewKnowledgeBase.name (others.map KnowledgeBase.timeless) :=
    hothers.map fun _ => rfl
  refine (Ledger.byName_put hold).eq_of_mem_iff hnew fun item => ?_
  rw [Ledger.mem_put, hput.mem_map NewKnowledgeBase.name fun _ => rfl]
  rfl

end

end NoteVault
