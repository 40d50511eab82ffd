import LogHarvest.Json.Access
import LogHarvest.Json.Reader

/-!
# Pull requests

A message that asks for logs: its id and its body, and the request that the body spells. Ids and bodies come from a
queue and may be any JSON value; only a text can be a request.
-/

namespace LogHarvest

/-- A request to pull the logs of a source. The time is passed on as it was sent. -/
structure PullRequest where
  source : Text
  time : Text
deriving DecidableEq, Repr

/-- A message as it was received. -/
structure Message where
  id : Json
  body : Json
deriving Repr, Inhabited

namespace PullRequest

/-- The request that a JSON value is; `text` is what was read. -/
def ofJson (text : Text) : Json → Except Fault PullRequest
  | .object members =>
    match Json.find? members (Text.ofString "log_source_name"), Json.find? members (Text.ofString "time") with
    | some (.string source), some (.string time) => .ok ⟨source, time⟩
    | _, _ => .error (.malformedRequest (.fieldsNotText text))
  | _ => .error (.malformedRequest (.notObject text))

/-- The request that a text spells. A text that is no JSON is malformed; the limits of the reader are another matter
and are passed on. -/
def ofText [Json.Limits] (text : Text) : Except Fault PullRequest :=
  match Json.read text with
  | .ok v => ofJson text v
  | .error (.malformed problem place) => .error (.malformedRequest (.notJson (.malformed problem place)))
  | .error fault => .error (.json fault)

/-- The request in the body of a message. -/
def ofBody [Json.Limits] : Json → Except Fault PullRequest
  | .null => .error (.malformedRequest .noBody)
  | .string text => ofText text
  | body => .error (.malformedRequest (.notText body.kindName))

/-- A value that is no request is malformed. -/
theorem ofJson_eq_error {text : Text} {v : Json} {fault : Fault}
    (h : ofJson text v = .error fault) :
    ∃ reason, fault = .malformedRequest reason := by
  unfold ofJson at h
  split at h
  · split at h
    · cases h
    · cases h
      exact ⟨_, rfl⟩
  · cases h
    exact ⟨_, rfl⟩

end PullRequest

namespace Message

/-- The member of one of two names, the first one first; null if there is neither. -/
def field (record : Json) (first second : String) : Except Fault Json := do
  return ((← record.member? first).or (← record.member? second)).getD .null

/-- The message of a queue record. One transport begins the names of the members with a capital letter. -/
def ofRecord (record : Json) : Except Fault Message := do
  return ⟨← field record "messageId" "MessageId", ← field record "body" "Body"⟩

end Message

end LogHarvest
