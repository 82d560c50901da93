import NoteVault.Path.Basic
import NoteVault.SortedMap
import NoteVault.Storage.Call

namespace NoteVault

-- A vault in memory. A path may name a file and a folder at once, and the top
-- folder, whose path is empty, is not on record.
structure Vault where
  files : SortedMap String
  folders : SortedMap Unit
deriving DecidableEq, Repr

-- Paths are taken in normal form and must not climb.
def storagePath (path : String) : Except StorageFault String :=
  let normal := Path.normalize path
  if Path.hasTraversal normal then .error (.climbs path) else .ok normal

namespace Vault

def empty : Vault := ⟨.empty, .empty⟩

def hasFile (vault : Vault) (path : String) : Bool :=
  vault.files.contains path

def hasFolder (vault : Vault) (path : String) : Bool :=
  vault.folders.contains path

def withFolder (vault : Vault) (path : String) : Vault :=
  { vault with folders := vault.folders.insert path () }

-- Adds the folders around a path, the nearest first. Above a folder that is
-- there all others are too.
def withParents (vault : Vault) (path : String) : Vault :=
  ((Path.ancestors path).takeWhile fun folder => !vault.hasFolder folder).foldl withFolder vault

def withFile (vault : Vault) (path text : String) : Vault :=
  let vault := vault.withParents path
  { vault with files := vault.files.insert path text }

def withoutFile (vault : Vault) (path : String) : Vault :=
  { vault with files := vault.files.erase path }

def childrenOf {ν : Type} (folder : String) (map : SortedMap ν) : List String :=
  map.keys.filter fun path => Path.parent path == folder

def listing (vault : Vault) (folder : String) : Listing :=
  ⟨childrenOf folder vault.files, childrenOf folder vault.folders⟩

-- The answer to a call on normal paths, and the vault after it. Only files
-- count for the mode of a write and the target of a rename.
def answer {α : Type} (vault : Vault) : Call α → Except StorageFault α × Vault
  | .read path =>
    match vault.files.get? path with
    | some text => (.ok text, vault)
    | none => (.error (.notFound path), vault)
  | .write path text mode =>
    if mode = .create ∧ vault.hasFile path then (.error (.alreadyExists path), vault)
    else if mode = .modify ∧ !vault.hasFile path then (.error (.notFound path), vault)
    else (.ok (), vault.withFile path text)
  | .delete path =>
    if vault.hasFile path then (.ok (), vault.withoutFile path)
    else (.error (.notFound path), vault)
  | .rename source target =>
    if vault.hasFile target then (.error (.alreadyExists target), vault)
    else
      match vault.files.get? source with
      | some text => (.ok (), (vault.withoutFile source).withFile target text)
      | none => (.error (.notFound source), vault)
  | .createFolder path =>
    if path.isEmpty then (.ok (), vault) else (.ok (), (vault.withParents path).withFolder path)
  | .list folder =>
    if folder.isEmpty || vault.hasFolder folder then (.ok (vault.listing folder), vault)
    else (.error (.notFound folder), vault)
  | .isPresent path =>
    (.ok (path.isEmpty || vault.hasFile path || vault.hasFolder path), vault)

end Vault

-- The call on normal paths.
def Call.normal {α : Type} : Call α → Except StorageFault (Call α)
  | .read path => (storagePath path).map .read
  | .write path text mode => (storagePath path).map (.write · text mode)
  | .delete path => (storagePath path).map .delete
  | .rename source target => do return .rename (← storagePath source) (← storagePath target)
  | .createFolder path => (storagePath path).map .createFolder
  | .list path => (storagePath path).map .list
  | .isPresent path => (storagePath path).map .isPresent

def Vault.perform {α : Type} (vault : Vault) (call : Call α) : Except StorageFault α × Vault :=
  match call.normal with
  | .ok call => vault.answer call
  | .error fault => (.error fault, vault)

-- Each further level of a walk has a folder more on the way to it.
def Vault.depth (vault : Vault) : Nat :=
  vault.folders.size + 1

def Storage.memory : Storage (StateM Vault) where
  perform call vault := vault.perform call
  depth vault := (vault.depth, vault)

end NoteVault
