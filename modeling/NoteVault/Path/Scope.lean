import NoteVault.Failure
import NoteVault.KnowledgeBase.Basic
import NoteVault.Path.Basic

namespace NoteVault

-- A folder of the vault in normal form, as a knowledge base may own it.
def Path.folder (raw : String) : Except PathFault String :=
  let folder := normalize raw
  if hasTraversal folder then .error (.climbs raw)
  else if folder.isEmpty then .error .emptyFolder
  else .ok folder

namespace KnowledgeBase

-- A path may name its knowledge base's subfolder or leave it out.
def inScope (base : KnowledgeBase) (relative : String) : String :=
  if Path.isWithin relative base.subfolder then relative
  else if relative.isEmpty then base.subfolder
  else Path.below base.subfolder relative

-- The place in the vault that a path of the knowledge base means. Nothing
-- outside the subfolder can be meant.
def resolve (base : KnowledgeBase) (raw : String) : Except PathFault String :=
  let relative := Path.normalize raw
  if Path.hasTraversal relative then .error (.climbs raw)
  else
    let resolved := Path.normalize (base.inScope relative)
    if Path.isWithin resolved base.subfolder then .ok resolved
    else .error (.outside raw base.name)

-- The place of a note. The extension may be left out.
def resolveNote (base : KnowledgeBase) (raw : String) : Except PathFault String := do
  let resolved ← base.resolve raw
  if resolved = base.subfolder then throw (.namesNoNote raw)
  return if Path.isNote resolved then resolved else resolved ++ Path.noteExtension

end KnowledgeBase

end NoteVault
