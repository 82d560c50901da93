import NoteVault.Tool.ArgumentFault
import NoteVault.Validation.Issue

namespace NoteVault

-- Why a path or a folder is refused.
inductive PathFault where
  | climbs (path : String)
  | emptyFolder
  | outside (path knowledgeBase : String)
  | namesNoNote (path : String)
  | reserved (folder root : String)
  | folderOutside (folder knowledgeBase owned : String)
deriving DecidableEq, Repr

def PathFault.message : PathFault → String
  | .climbs path => s!"'{path}' contains a '..' segment"
  | .emptyFolder => "subfolder must not be empty"
  | .outside path knowledgeBase => s!"'{path}' is outside knowledge base '{knowledgeBase}'"
  | .namesNoNote path => s!"'{path}' does not name a note"
  | .reserved folder root => s!"subfolder '{folder}' overlaps the reserved directory '{root}'"
  | .folderOutside folder knowledgeBase owned =>
    s!"subfolder '{folder}' is outside knowledge base '{knowledgeBase}' ({owned})"

-- Why rules are malformed. The place is the path of the part that is wrong.
inductive RulesFault where
  | notAnObject (place type : String)
  | notAnArray (place type : String)
  | notAString (place type : String)
  | notAScalar (place type : String)
  | notASection (type : String)
  | unnamedField (place : String)
  | untypedField (place : String)
  | unknownType (place type : String)
  | badLength (key : String)
  | badFilenamePattern
  | blankFieldName
deriving DecidableEq, Repr

-- The message of a pattern that cannot be read ends before what the pattern
-- reader says of it. The same is true below of a time, of a request, of a vault
-- that cannot be opened and of a failed input or output: what a library or the
-- system says of its own failure follows the message and is left out.
def RulesFault.message : RulesFault → String
  | .notAnObject place type => s!"{place} must be an object, got {type}"
  | .notAnArray place type => s!"{place} must be an array, got {type}"
  | .notAString place type => s!"{place} must be a string, got {type}"
  | .notAScalar place type => s!"{place} must contain scalars, got {type}"
  | .notASection type => s!"content.required_sections must contain strings, got {type}"
  | .unnamedField place => s!"{place}.name must be a non-empty string"
  | .untypedField place => s!"{place}.type must be a string"
  | .unknownType place type =>
    s!"{place}.type must be one of string, number, boolean, date, array; got '{type}'"
  | .badLength key => s!"content.{key} must be a non-negative integer"
  | .badFilenamePattern => "filename.pattern is not a valid regular expression"
  | .blankFieldName => "frontmatter.required_fields entries need a non-empty name"

-- What is wrong with a line of a rules block.
inductive LineFault where
  | indentation
  | unexpectedItem
  | notAnEntry
deriving DecidableEq, Repr

def LineFault.message : LineFault → String
  | .indentation => "unexpected indentation"
  | .unexpectedItem => "list item where a key was expected"
  | .notAnEntry => "expected `key: value`"

-- Why a stored document cannot be read.
inductive DocumentFault where
  | missingField (owner key : String)
  | badCreateTime (knowledgeBase : String)
  | emptySubfolder (knowledgeBase : String)
  | noRulesBlock (folder : String)
  | badLine (number : Nat) (fault : LineFault) (text : String)
  | badRules (folder : String) (fault : RulesFault)
deriving DecidableEq, Repr

def rulesFailurePreamble : String := "Schema validation failed: "

-- A bad time goes without what the reader of times says of it.
def DocumentFault.message : DocumentFault → String
  | .missingField owner key => s!"record '{owner}' is missing string field '{key}'"
  | .badCreateTime knowledgeBase =>
    s!"knowledge base '{knowledgeBase}' has an invalid create_time"
  | .emptySubfolder knowledgeBase => s!"knowledge base '{knowledgeBase}' has an empty subfolder"
  | .noRulesBlock folder => s!"folder constraint for '{folder}' has no fenced rules block"
  | .badLine number fault text => s!"rules block line {number}: {fault.message}: `{text}`"
  | .badRules folder fault =>
    s!"folder constraint for '{folder}': {rulesFailurePreamble}{fault.message}"

-- Why a request is refused before anything is looked up.
inductive InputFault where
  | blankName
  | badName (name : String)
  | reservedName (name : String)
  | unknownTool (name : String)
  | emptyUpdate
  | badArguments (tool : String) (fault : ArgumentFault)
  | malformedRequest
  | unnamedTool
  | unknownMethod (name : String)
deriving DecidableEq, Repr

-- A request that is no JSON goes without what the reader of JSON says of it.
def InputFault.message : InputFault → String
  | .blankName => "Knowledge base name cannot be empty"
  | .badName name =>
    s!"Knowledge base name '{name}' must not start with '.' or contain path separators"
  | .reservedName name => s!"Knowledge base name '{name}' is reserved"
  | .unknownTool name => s!"Unknown tool: {name}"
  | .emptyUpdate => "update_knowledge_base needs at least one field to change"
  | .badArguments tool fault => s!"invalid arguments for {tool}: {fault.message}"
  | .malformedRequest => "request is not valid JSON"
  | .unnamedTool => "call requests need a 'tool' name"
  | .unknownMethod name => s!"Unknown method: '{name}'"

-- Why the settings cannot be used.
inductive SettingsFault where
  | missingVault
  | badRoot (root : String)
  | badLogFormat (format : String)
  | inaccessibleVault (path : String)
  | vaultNotAFolder (path : String)
  | readOnlyVault (path : String)
deriving DecidableEq, Repr

-- An inaccessible vault goes without the cause that the system gives.
def SettingsFault.message : SettingsFault → String
  | .missingVault => "VAULT_PATH must be set"
  | .badRoot root => s!"KB_ROOT_DIR '{root}' must be a non-empty vault-relative path"
  | .badLogFormat format => s!"LOG_FORMAT must be 'text' or 'json', got '{format}'"
  | .inaccessibleVault path => s!"vault path {path} is not accessible"
  | .vaultNotAFolder path => s!"vault path {path} is not a directory"
  | .readOnlyVault path => s!"vault path {path} is read-only"

-- Why the vault's storage refuses a call. Input and output failures have
-- causes outside the vault.
inductive StorageFault where
  | notFound (path : String)
  | alreadyExists (path : String)
  | climbs (path : String)
  | inputOutput
deriving DecidableEq, Repr

-- Why an operation on the vault fails.
inductive Failure where
  | knowledgeBaseNotFound (name : String)
  | knowledgeBaseExists (name : String)
  | subfolderOverlap (folder other otherFolder : String)
  | noteNotFound (path : String)
  | noteExists (path : String)
  | badPath (fault : PathFault)
  | violation (path : String) (issues : List Issue)
  | badRules (fault : RulesFault)
  | storage (fault : StorageFault)
  | badInput (fault : InputFault)
  | badDocument (fault : DocumentFault)
  | badSettings (fault : SettingsFault)
deriving DecidableEq, Repr

namespace Failure

-- The tag that callers tell failures apart by.
def kind : Failure → String
  | .knowledgeBaseNotFound _ => "KnowledgeBaseNotFound"
  | .knowledgeBaseExists _ => "KnowledgeBaseAlreadyExists"
  | .subfolderOverlap .. => "SubfolderOverlap"
  | .noteNotFound _ => "NoteNotFound"
  | .noteExists _ => "NoteAlreadyExists"
  | .badPath _ => "InvalidNotePath"
  | .violation .. => "FolderConstraintViolation"
  | .badRules _ => "SchemaValidationFailed"
  | .storage (.notFound _) => "NotFound"
  | .storage (.alreadyExists _) => "AlreadyExists"
  | .storage (.climbs _) => "InvalidInput"
  | .storage .inputOutput => "Io"
  | .badInput _ => "InvalidInput"
  | .badDocument _ => "Serialization"
  | .badSettings _ => "Config"

-- A failed input or output goes without the cause that the system gives.
def message : Failure → String
  | .knowledgeBaseNotFound name => s!"Knowledge base not found: {name}"
  | .knowledgeBaseExists name => s!"Knowledge base already exists: {name}"
  | .subfolderOverlap folder other otherFolder =>
    s!"Subfolder '{folder}' overlaps with knowledge base '{other}' at '{otherFolder}'"
  | .noteNotFound path => s!"Note not found: {path}"
  | .noteExists path => s!"Note already exists: {path}"
  | .badPath fault => s!"Invalid note path: {fault.message}"
  | .violation path issues => s!"Folder constraint violation for {path}: {issues.length} issue(s)"
  | .badRules fault => rulesFailurePreamble ++ fault.message
  | .storage (.notFound path) => s!"Not found: {path}"
  | .storage (.alreadyExists path) => s!"Already exists: {path}"
  | .storage (.climbs path) => s!"Invalid input: storage path '{path}' contains a '..' segment"
  | .storage .inputOutput => "I/O error"
  | .badInput fault => s!"Invalid input: {fault.message}"
  | .badDocument fault => s!"Serialization error: {fault.message}"
  | .badSettings fault => s!"Configuration error: {fault.message}"

-- Only a note that breaks its rules comes with a list of issues.
def issues? : Failure → Option (List Issue)
  | .violation _ issues => some issues
  | _ => none

end Failure

end NoteVault
