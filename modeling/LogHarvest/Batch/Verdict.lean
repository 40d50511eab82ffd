import LogHarvest.Batch.Failures
import LogHarvest.Catalog.Routing
import LogHarvest.Request
import LogHarvest.Scene

/-!
# Verdicts

Before anything is pulled each message of a batch is judged by itself. One without an id could never be reported and
is dropped; one that is no request, or asks for an unknown source, is refused; any other is ready. Only the limits of
the JSON reader bring down the whole batch.
-/

namespace LogHarvest

/-- A request that is ready to be pulled. -/
structure Task where
  id : Json
  request : PullRequest
  route : Route
deriving Repr

/-- The name of the source that is to be pulled. -/
def Task.source (t : Task) : Text := t.request.source

/-- What becomes of a message before anything is pulled. -/
inductive Verdict
  | dropped (body : Json)
  | refused (failure : Failure)
  | ready (task : Task)
deriving Repr

namespace Verdict

/-- The verdict on a request. -/
def ofRequest (routing : Routing) (id : Json) (request : PullRequest) : Verdict :=
  match routing.find? request.source with
  | some route => .ready ⟨id, request, route⟩
  | none => .refused ⟨id, some request.source, .unknownSource request.source⟩

/-- The verdict on a message. -/
def ofMessage [Json.Limits] (routing : Routing) (m : Message) : Except Fault Verdict :=
  if m.id.isNull then .ok (.dropped m.body)
  else match PullRequest.ofBody m.body with
    | .ok request => .ok (ofRequest routing m.id request)
    | .error (.malformedRequest reason) => .ok (.refused ⟨m.id, none, .malformedRequest reason⟩)
    | .error fault => .error fault

/-- What the journal says about a verdict. -/
def lines : Verdict → List Line
  | dropped body =>
    [⟨.error, .batch, Text.ofString "Dropping message with no message id: " ++ body.shown⟩]
  | refused failure => [failure.line]
  | ready _ => []

/-- The failure in a verdict. -/
def failure? : Verdict → Option Failure
  | refused failure => some failure
  | _ => none

/-- The task in a verdict. -/
def task? : Verdict → Option Task
  | ready task => some task
  | _ => none

/-- The verdicts on messages, up to the first that brings down the batch. -/
def ofMessages [Json.Limits] {σ : Type} (routing : Routing) : List Message → Act σ (List Verdict)
  | [] => return []
  | m :: rest => do
    let verdict ← liftM (ofMessage routing m)
    Act.write verdict.lines
    return verdict :: (← ofMessages routing rest)

end Verdict

end LogHarvest
