import NoteVault.Failure
import NoteVault.Path.Basic
import NoteVault.Registry.Basic

namespace NoteVault

inductive LogFormat where
  | text
  | json
deriving DecidableEq, Repr

namespace LogFormat

def name : LogFormat → String
  | .text => "text"
  | .json => "json"

-- The name in any case, with blanks around it or left out.
def ofName? (raw : String) : Option LogFormat :=
  let name := String.ofList ((Text.trim raw.toList).map Char.toLower)
  if name = "text" ∨ name = "" then some .text
  else if name = "json" then some .json
  else none

end LogFormat

-- What is set by the environment: the folder of the vault, the folder of the
-- records in it, and how to write the log.
structure Settings where
  vaultPath : String
  root : String
  logFormat : LogFormat
  logFile : Option String
  logColors : Option Bool
deriving DecidableEq, Repr

namespace Settings

-- The value of a variable, where blanks count as none.
def filled? (valueOf? : String → Option String) (name : String) : Option String :=
  (valueOf? name).filter fun value => !Text.isAllBlank value

def vaultPathOf (valueOf? : String → Option String) : Except SettingsFault String :=
  match filled? valueOf? "VAULT_PATH" with
  | some path => .ok path
  | none => .error .missingVault

def rootOf (valueOf? : String → Option String) : Except SettingsFault String :=
  match valueOf? "KB_ROOT_DIR" with
  | none => .ok Registry.defaultRoot
  | some raw =>
    let root := Path.normalize raw
    if root.isEmpty || Path.hasTraversal root then .error (.badRoot raw) else .ok root

def logFormatOf (valueOf? : String → Option String) : Except SettingsFault LogFormat :=
  match valueOf? "LOG_FORMAT" with
  | none => .ok .text
  | some raw =>
    match LogFormat.ofName? raw with
    | some format => .ok format
    | none => .error (.badLogFormat raw)

-- Settings from the variables of the environment.
def ofVariables (valueOf? : String → Option String) : Except SettingsFault Settings := do
  let vaultPath ← vaultPathOf valueOf?
  let root ← rootOf valueOf?
  let logFormat ← logFormatOf valueOf?
  return ⟨vaultPath, root, logFormat, filled? valueOf? "LOG_FILE",
    (valueOf? "LOG_ANSI").map fun value => value == "true" || value == "1"⟩

end Settings

end NoteVault
