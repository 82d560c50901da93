import NoteVault.Registry.Constraints

namespace NoteVault

open Json

-- What a change to a note leads to: the place of the note, the folder of the
-- constraint it had to satisfy, and the check, which found no issue.
structure NoteOutcome where
  path : String
  checked : Option (String × Validation)
deriving DecidableEq, Repr

def NoteOutcome.toJson (outcome : NoteOutcome) : Value :=
  .ofFields <| [("path", .string outcome.path)] ++
    match outcome.checked with
    | some (folder, validation) =>
      [("constraint_subfolder", .string folder), ("validation", validation.toJson)]
    | none => [("validation", .null)]

-- A note as it is read.
structure NoteContent where
  path : String
  content : String
deriving DecidableEq, Repr

def NoteContent.toJson (note : NoteContent) : Value :=
  let parsed := FrontMatter.Note.ofText note.content
  .ofFields [("path", .string note.path), ("content", .string note.content),
    ("frontmatter", .object parsed.fields), ("body", .string parsed.body)]

-- The refusal of a call, as that of work on a note.
def noteFailure : StorageFault → Failure
  | .notFound path => .noteNotFound path
  | .alreadyExists path => .noteExists path
  | fault => .storage fault

-- The text with a line after it. The line starts on a line of its own.
def appended (text addition : String) : String :=
  if text.isEmpty || text.toList.getLast? == some '\n' then text ++ addition
  else text ++ "\n" ++ addition

namespace Registry

variable {m : Type → Type} [Monad m]

def askNote {α : Type} (registry : Registry m) (call : Call α) : Work m α := do
  match ← registry.storage.perform call with
  | .ok answer => return answer
  | .error fault => throw (noteFailure fault)

-- Lets a note pass that satisfies its constraint or has none.
def enforce (registry : Registry m) (base : KnowledgeBase) (path content : String) :
    Work m NoteOutcome := do
  match ← registry.checkNote base.name path content with
  | none => return ⟨path, none⟩
  | some (constraint, validation) =>
    if validation.passed then return ⟨path, some (constraint.subfolder, validation)⟩
    else throw (.violation path validation.issues)

-- Notes are addressed by their knowledge base and a path in it.
def noteAt (registry : Registry m) (name raw : String) : Work m (KnowledgeBase × String) := do
  let base ← registry.require name
  return (base, ← orFail .badPath (base.resolveNote raw))

def createNote (registry : Registry m) (name raw content : String) : Work m NoteOutcome := do
  let (base, path) ← registry.noteAt name raw
  let outcome ← registry.enforce base path content
  if ← registry.storage.ask (.isPresent path) then throw (.noteExists path)
  registry.askNote (.write path content .create)
  return outcome

def readNote (registry : Registry m) (name raw : String) : Work m NoteContent := do
  let (_, path) ← registry.noteAt name raw
  return ⟨path, ← registry.askNote (.read path)⟩

def updateNote (registry : Registry m) (name raw content : String) : Work m NoteOutcome := do
  let (base, path) ← registry.noteAt name raw
  if !(← registry.storage.ask (.isPresent path)) then throw (.noteNotFound path)
  let outcome ← registry.enforce base path content
  registry.askNote (.write path content .modify)
  return outcome

-- The whole text that results has to satisfy the constraint.
def appendNote (registry : Registry m) (name raw addition : String) : Work m NoteOutcome := do
  let (base, path) ← registry.noteAt name raw
  let content := appended (← registry.askNote (.read path)) addition
  let outcome ← registry.enforce base path content
  registry.askNote (.write path content .modify)
  return outcome

-- The note has to satisfy the constraint of the place it moves to.
def moveNote (registry : Registry m) (name rawSource rawTarget : String) : Work m NoteOutcome := do
  let (base, source) ← registry.noteAt name rawSource
  let target ← orFail .badPath (base.resolveNote rawTarget)
  let content ← registry.askNote (.read source)
  if ← registry.storage.ask (.isPresent target) then throw (.noteExists target)
  let outcome ← registry.enforce base target content
  registry.askNote (.rename source target)
  return outcome

-- Removes a note and tells its place. No constraint stands against that.
def deleteNote (registry : Registry m) (name raw : String) : Work m String := do
  let (_, path) ← registry.noteAt name raw
  registry.askNote (.delete path)
  return path

-- The notes in folders of one level and, if so wished, on all levels below.
-- There are at most so many levels.
def notesIn (registry : Registry m) (recursive : Bool) :
    Nat → List String → Work m (List String)
  | 0, _ => return []
  | levels + 1, folders => do
    let listings ← folders.mapM (listingOf registry.storage)
    let notes := listings.flatMap fun listing => listing.files.filter Path.isNote
    let deeper := if recursive then listings.flatMap Listing.folders else []
    if deeper.isEmpty then return notes
    return notes ++ (← registry.notesIn recursive levels deeper)

-- The places of all notes in a folder of the knowledge base, in order.
def listNotes (registry : Registry m) (name folder : String) (recursive : Bool) :
    Work m (List String) := do
  let base ← registry.require name
  let start ← orFail .badPath (base.resolve folder)
  let notes ← registry.notesIn recursive (← registry.storage.depth) [start]
  return notes.mergeSort fun left right => left ≤ right

end Registry

end NoteVault
