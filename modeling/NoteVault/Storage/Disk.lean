import NoteVault.Storage.Memory

namespace NoteVault

-- A vault as a disk keeps it: a path is either a file or a folder. Files whose
-- bytes are no text are there but cannot be read.
structure Disk where
  files : SortedMap (Option String)
  folders : SortedMap Unit
  readOnly : List String
deriving DecidableEq, Repr

inductive DiskEntry where
  | file (text : Option String)
  | folder
deriving DecidableEq, Repr

namespace Disk

def empty : Disk := ⟨.empty, .empty, []⟩

-- Limits of a disk, in bytes: for one name, and for a path in the vault.
def nameLimit : Nat := 255

def pathLimit : Nat := 4079

def isLongName (name : String) : Bool :=
  nameLimit < name.utf8ByteSize

-- Paths that no call reaches the disk with.
def isUnusable (path : String) : Bool :=
  pathLimit < path.utf8ByteSize || path.toList.contains '\x00'

def names (path : String) : List String :=
  (Path.segments path).map String.ofList

def look (disk : Disk) (path : String) : Option DiskEntry :=
  match disk.files.get? path with
  | some text => some (.file text)
  | none => if disk.folders.contains path then some .folder else none

-- Goes down from a folder, name by name. Nothing can be below a file, and a name
-- that is too long is noticed when it is looked for.
def walk (disk : Disk) (folder : String) : List String → Except StorageFault (Option DiskEntry)
  | [] => .ok (some .folder)
  | name :: rest =>
    if isLongName name then .error .inputOutput
    else
      match disk.look (Path.child folder name) with
      | none => .ok none
      | some .folder => disk.walk (Path.child folder name) rest
      | some (.file text) => if rest.isEmpty then .ok (some (.file text)) else .error .inputOutput

def find (disk : Disk) (path : String) : Except StorageFault (Option DiskEntry) :=
  if isUnusable path then .error .inputOutput else disk.walk "" (names path)

-- Goes down like a walk and creates the folders that are missing. Those that
-- are created before a failure stay.
def makeFoldersFrom (disk : Disk) (folder : String) :
    List String → Except StorageFault Unit × Disk
  | [] => (.ok (), disk)
  | name :: rest =>
    let path := Path.child folder name
    if isLongName name then (.error .inputOutput, disk)
    else
      match disk.look path with
      | some .folder => disk.makeFoldersFrom path rest
      | some (.file _) => (.error .inputOutput, disk)
      | none => makeFoldersFrom { disk with folders := disk.folders.insert path () } path rest

def makeFolders (disk : Disk) (path : String) : Except StorageFault Unit × Disk :=
  if isUnusable path then (.error .inputOutput, disk) else disk.makeFoldersFrom "" (names path)

def withFile (disk : Disk) (path : String) (text : Option String) : Disk :=
  { disk with files := disk.files.insert path text }

def withoutFile (disk : Disk) (path : String) : Disk :=
  { disk with files := disk.files.erase path }

-- A text is first written under another name beside its place, and then
-- renamed, so that no reader sees a part of it.
def draftName (name : String) : String :=
  "." ++ name ++ ".tmp"

def isDraftName (name : String) : Bool :=
  name.toList.head? == some '.' && ".tmp".toList.isSuffixOf name.toList

-- A draft stays behind when a folder is in its place.
def putFile (disk : Disk) (path text : String) : Except StorageFault Unit × Disk :=
  let name := draftName (Path.fileName path)
  let draft := Path.child (Path.parent path) name
  if isLongName name || isUnusable draft || disk.look draft == some .folder then
    (.error .inputOutput, disk)
  else if disk.look path == some .folder then
    (.error .inputOutput, disk.withFile draft (some text))
  else (.ok (), (disk.withoutFile draft).withFile path (some text))

def write (disk : Disk) (raw path text : String) (mode : WriteMode) :
    Except StorageFault Unit × Disk :=
  match disk.find path with
  | .error fault => (.error fault, disk)
  | .ok found =>
    if mode = .create ∧ found.isSome then (.error (.alreadyExists raw), disk)
    else if mode = .modify ∧ found.isNone then (.error (.notFound raw), disk)
    else if path.isEmpty then (.error .inputOutput, disk)
    else
      match disk.makeFolders (Path.parent path) with
      | (.error fault, disk) => (.error fault, disk)
      | (.ok (), disk) => disk.putFile path text

-- The path after its folder has moved.
def movedPath (source target path : String) : String :=
  if Path.isWithin path source then
    target ++ String.ofList (path.toList.drop source.toList.length)
  else path

-- A folder moves with all that is in it, and cannot move into itself.
def move (disk : Disk) (source target : String) : Except StorageFault Unit × Disk :=
  if source.isEmpty || Path.isWithin target source || isLongName (Path.fileName target) then
    (.error .inputOutput, disk)
  else
    (.ok (), { disk with
      files := disk.files.mapKeys (movedPath source target)
      folders := disk.folders.mapKeys (movedPath source target)
      readOnly := disk.readOnly.map (movedPath source target) })

def rename (disk : Disk) (rawSource rawTarget source target : String) :
    Except StorageFault Unit × Disk :=
  match disk.find source with
  | .error fault => (.error fault, disk)
  | .ok none => (.error (.notFound rawSource), disk)
  | .ok (some _) =>
    match disk.find target with
    | .error fault => (.error fault, disk)
    | .ok (some _) => (.error (.alreadyExists rawTarget), disk)
    | .ok none =>
      match disk.makeFolders (Path.parent target) with
      | (.error fault, disk) => (.error fault, disk)
      | (.ok (), disk) => disk.move source target

def visible (paths : List String) : List String :=
  paths.filter fun path => !isDraftName (Path.fileName path)

-- Drafts that were left behind are not listed.
def listing (disk : Disk) (folder : String) : Listing :=
  ⟨visible (Vault.childrenOf folder disk.files), visible (Vault.childrenOf folder disk.folders)⟩

-- The entry at a path that must not be missing.
def present (disk : Disk) (raw path : String) : Except StorageFault DiskEntry :=
  match disk.find path with
  | .error fault => .error fault
  | .ok none => .error (.notFound raw)
  | .ok (some found) => .ok found

def read (disk : Disk) (raw path : String) : Except StorageFault String := do
  match ← disk.present raw path with
  | .file (some text) => .ok text
  | .file none | .folder => .error .inputOutput

def delete (disk : Disk) (raw path : String) : Except StorageFault Unit × Disk :=
  match disk.present raw path with
  | .error fault => (.error fault, disk)
  | .ok .folder => (.error .inputOutput, disk)
  | .ok (.file _) => (.ok (), disk.withoutFile path)

def list (disk : Disk) (raw path : String) : Except StorageFault Listing := do
  match ← disk.present raw path with
  | .folder => .ok (disk.listing path)
  | .file _ => .error .inputOutput

-- Goes on with the normal form of a path.
def atNormal {α : Type} (disk : Disk) (path : String)
    (next : String → Except StorageFault α × Disk) : Except StorageFault α × Disk :=
  match storagePath path with
  | .error fault => (.error fault, disk)
  | .ok normal => next normal

-- The answer to a call, and the disk after it. Faults name paths as the call
-- gives them.
def perform {α : Type} (disk : Disk) : Call α → Except StorageFault α × Disk
  | .read path => disk.atNormal path fun normal => (disk.read path normal, disk)
  | .write path text mode => disk.atNormal path fun normal => disk.write path normal text mode
  | .delete path => disk.atNormal path (disk.delete path)
  | .rename source target =>
    disk.atNormal source fun normalSource => disk.atNormal target fun normalTarget =>
      disk.rename source target normalSource normalTarget
  | .createFolder path => disk.atNormal path disk.makeFolders
  | .list path => disk.atNormal path fun normal => (disk.list path normal, disk)
  | .isPresent path =>
    disk.atNormal path fun normal => ((disk.find normal).map Option.isSome, disk)

-- A disk serves as a vault when its folder is there and may be written to. The
-- shown path is the one that messages give.
def check (disk : Disk) (path shown : String) : Except SettingsFault Unit :=
  match disk.find (Path.normalize path) with
  | .error _ | .ok none => .error (.inaccessibleVault shown)
  | .ok (some (.file _)) => .error (.vaultNotAFolder shown)
  | .ok (some .folder) =>
    if disk.readOnly.contains (Path.normalize path) then .error (.readOnlyVault shown) else .ok ()

def depth (disk : Disk) : Nat :=
  disk.folders.size + 1

end Disk

def Storage.disk : Storage (StateM Disk) where
  perform call disk := disk.perform call
  depth disk := (disk.depth, disk)

end NoteVault
