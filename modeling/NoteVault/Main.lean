import NoteVault.Settings
import NoteVault.Storage.Disk
import NoteVault.Time.Epoch
import NoteVault.Tool.Request
import Std.Time.DateTime.Timestamp

namespace NoteVault

-- The place of a vault's path on the machine.
def placeOf (vault path : String) : IO.FS.DirEntry :=
  ⟨vault, path⟩

def faultOf (path : String) : IO.Error → StorageFault
  | .noFileOrDirectory .. => .notFound path
  | _ => .inputOutput

-- Runs an action of the machine. What goes wrong there refuses the call.
def attempt {α : Type} (path : String) (action : IO α) : IO (Except StorageFault α) := do
  match ← action.toBaseIO with
  | .ok value => return .ok value
  | .error problem => return .error (faultOf path problem)

-- Writes the draft beside its place first, so that no reader sees a part of it.
def writeFile (vault path text : String) : IO Unit := do
  let folder := Path.parent path
  IO.FS.createDirAll (placeOf vault folder).path
  let draft := placeOf vault (Path.child folder (Disk.draftName (Path.fileName path)))
  IO.FS.writeFile draft.path text
  IO.FS.rename draft.path (placeOf vault path).path

def listFolder (vault folder : String) : IO Listing := do
  let mut files := []
  let mut folders := []
  for entry in ← (placeOf vault folder).path.readDir do
    if !Disk.isDraftName entry.fileName then
      let path := Path.child folder entry.fileName
      if ← entry.path.isDir then folders := path :: folders else files := path :: files
  let sorted (paths : List String) : List String :=
    paths.mergeSort fun left right => left ≤ right
  return ⟨sorted files, sorted folders⟩

def isThere (vault path : String) : IO Bool :=
  (placeOf vault path).path.pathExists

-- Goes on with the normal form of a path.
def atNormal {α : Type} (path : String) (next : String → IO (Except StorageFault α)) :
    IO (Except StorageFault α) :=
  match storagePath path with
  | .error fault => return .error fault
  | .ok normal => next normal

def writeCall (vault raw path text : String) (mode : WriteMode) :
    IO (Except StorageFault Unit) := do
  let present ← isThere vault path
  if mode = .create ∧ present then return .error (.alreadyExists raw)
  else if mode = .modify ∧ !present then return .error (.notFound raw)
  else attempt raw (writeFile vault path text)

def renameCall (vault rawSource rawTarget source target : String) :
    IO (Except StorageFault Unit) := do
  if !(← isThere vault source) then return .error (.notFound rawSource)
  else if ← isThere vault target then return .error (.alreadyExists rawTarget)
  else
    attempt rawSource do
      IO.FS.createDirAll (placeOf vault (Path.parent target)).path
      IO.FS.rename (placeOf vault source).path (placeOf vault target).path

-- Answers a call. Faults name paths as the call gives them.
def answerCall {α : Type} (vault : String) : Call α → IO (Except StorageFault α)
  | .read path =>
    atNormal path fun normal => attempt path (IO.FS.readFile (placeOf vault normal).path)
  | .write path text mode => atNormal path fun normal => writeCall vault path normal text mode
  | .delete path =>
    atNormal path fun normal => attempt path (IO.FS.removeFile (placeOf vault normal).path)
  | .rename source target =>
    atNormal source fun normalSource => atNormal target fun normalTarget =>
      renameCall vault source target normalSource normalTarget
  | .createFolder path =>
    atNormal path fun normal => attempt path (IO.FS.createDirAll (placeOf vault normal).path)
  | .list path => atNormal path fun normal => attempt path (listFolder vault normal)
  | .isPresent path => atNormal path fun normal => return .ok (← isThere vault normal)

-- A path has no more segments than bytes.
def machineStorage (vault : String) : Storage IO where
  perform call := answerCall vault call
  depth := return Disk.pathLimit + 1

def machineTime : IO Time.Instant := do
  let stamp ← Std.Time.Timestamp.now
  return .ofEpoch stamp.val.second.val stamp.val.nano.val.toNat

-- Answers requests line by line until the input ends.
partial def serve (registry : Registry IO) (input output : IO.FS.Stream) : IO Unit := do
  let line ← input.getLine
  if line.isEmpty then return
  if let some answer ← Request.answerLine? registry line then
    output.putStrLn answer.compact
    output.flush
  serve registry input output

def environmentNames : List String :=
  ["VAULT_PATH", "KB_ROOT_DIR", "LOG_FORMAT", "LOG_FILE", "LOG_ANSI"]

def environment : IO (Keyed String) := do
  let found ← environmentNames.mapM fun name => return (name, ← IO.getEnv name)
  return Keyed.ofList (found.filterMap fun (name, value) => value.map fun value => (name, value))

def checkVault (path : String) : IO (Except SettingsFault Unit) := do
  let place := placeOf path ""
  if !(← place.path.pathExists) then return .error (.inaccessibleVault path)
  if !(← place.path.isDir) then return .error (.vaultNotAFolder path)
  return .ok ()

def refuse (fault : SettingsFault) : IO UInt32 := do
  (← IO.getStderr).putStrLn s!"Error: {(Failure.badSettings fault).message}"
  return 1

end NoteVault

open NoteVault

-- Serves the vault that the environment names, over standard input and output.
def main : IO UInt32 := do
  let settings ← environment
  match Settings.ofVariables fun name => Keyed.get? name settings with
  | .error fault => refuse fault
  | .ok settings =>
    match ← checkVault settings.vaultPath with
    | .error fault => refuse fault
    | .ok () =>
      let registry : Registry IO :=
        .ofRoot (machineStorage settings.vaultPath) machineTime settings.root
      serve registry (← IO.getStdin) (← IO.getStdout)
      return 0
