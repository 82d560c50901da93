import NoteVault.Json.Reader
import NoteVault.Tool.Call

namespace NoteVault

open Json

-- A request on a line of its own. What is missing in it or of another type
-- counts as absent.
structure Request where
  id : Value
  method : String
  tool : Option String
  arguments : Value
deriving DecidableEq, Repr

namespace Request

def ofJson (value : Value) : Request where
  id := (value.field? "id").getD .null
  method := ((value.field? "method").bind Value.string?).getD ""
  tool := (value.field? "tool").bind Value.string?
  arguments := (value.field? "arguments").getD .null

def refusal (fault : InputFault) : Value :=
  (Failure.badInput fault).toJson

-- The answer to a request, before it is addressed.
def answer {m : Type → Type} [Monad m] (registry : Registry m) (request : Request) : m Value :=
  if request.method = "list_tools" then
    return .ofFields [("tools", .array (Tool.all.map Tool.toJson))]
  else if request.method = "call" then
    match request.tool with
    | some tool => Tool.answer registry tool request.arguments
    | none => return refusal .unnamedTool
  else return refusal (.unknownMethod request.method)

-- Addresses an answer to the request with the id. Failures are set apart from
-- results.
def addressed (id answer : Value) : Value :=
  match answer.field? "error" with
  | some error => .ofFields [("id", id), ("error", error)]
  | none => .ofFields [("id", id), ("result", answer)]

-- The answer to a line. Blank lines get none.
def answerLine? {m : Type → Type} [Monad m] (registry : Registry m) (line : String) :
    m (Option Value) := do
  if Text.isAllBlank line then return none
  match read (Text.trimmed line) with
  | none => return some (addressed .null (refusal .malformedRequest))
  | some value =>
    let request := ofJson value
    return some (addressed request.id (← request.answer registry))

end Request

end NoteVault
