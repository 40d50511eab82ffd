import LogHarvest.Calendar.Window
import LogHarvest.Connector.Basic
import LogHarvest.Number.Integer
import LogHarvest.Vault

/-!
# The connector for web pages

A source of this type has a `url`, where a GET answers with the logs. It may ask for the events of the last
`lookback_minutes` only, and name a `token_header` for the `api_token` of its secret. Everything that is sent is
prepared before the GET: what cannot be prepared sends nothing.
-/

namespace LogHarvest.PageConnector

/-- The type of the sources. -/
def type : Text := Text.ofString "http_json"

/-- How many seconds a server may take. -/
def timeout : Nat := 30

/-- A property that counts as missing when it is empty. -/
def given? (route : Route) (name : String) : Option Text :=
  (route.property? (Text.ofString name)).filter fun t => !t.isEmpty

/-- The header that asks for JSON. -/
def accept : Text × Text := (Text.ofString "Accept", Text.ofString "application/json")

/-- The header that carries a token: the one that the source names, or the usual one. -/
def tokenHeader (header : Option Text) (token : Text) : Text × Text :=
  match header with
  | some name => (name, token)
  | none => (Text.ofString "Authorization", Text.ofString "Bearer " ++ token)

/-- The token in a secret; an empty one is none. -/
def token? (secret : Secret) : Option Text :=
  (secret.lookup (Text.ofString "api_token")).filter fun t => !t.isEmpty

/-- The headers of a GET. -/
def headers (route : Route) (secret : Secret) : List (Text × Text) :=
  match token? secret with
  | none => [accept]
  | some token =>
    let (name, value) := tokenHeader (given? route "token_header") token
    putNamed [accept] name value

/-- The instant from which on events are wanted. -/
def since (now : Instant) (minutes : Text) : Except Fault Instant :=
  match Integer.read minutes with
  | .error fault => .error (.integer fault)
  | .ok n =>
    match Window.start now n with
    | .error fault => .error (.window fault)
    | .ok start => .ok start

/-- What an answer comes to: a fault for the statuses of failure, no logs for "no content", else its body. -/
def logs (page : Page) : Except Fault Bytes :=
  if 400 ≤ page.status ∧ page.status < 600 then .error (.httpStatus page.status page.reason page.url)
  else if page.status = 204 then .ok []
  else .ok page.body

/-- The line about logs that were pulled. -/
def line (url : Text) (body : Bytes) : Line :=
  ⟨.debug, .connector,
    Text.ofString "pulled " ++ Text.ofNat body.length ++ Text.ofString " bytes from " ++ url⟩

variable {σ : Type}

/-- The query parameters of a GET. The time is asked for only where it matters. -/
def params (services : Services σ) (route : Route) : Act σ (List (Text × Text)) :=
  match given? route "lookback_minutes" with
  | none => return []
  | some minutes => do
    let now ← Act.ask services.now
    return [(Text.ofString "since", (← liftM (since now minutes)).toMoment.render)]

variable [Json.Limits]

/-- The request for a route. The secret is asked for first. -/
def prepare (services : Services σ) (url : Text) (route : Route) : Act σ PageRequest := do
  let secret ← Vault.get services route.secretRef
  return ⟨url, headers route secret, ← params services route, timeout⟩

/-- Pulls the logs of a source. -/
def pull (services : Services σ) (route : Route) : Act σ Bytes := do
  let some url := given? route "url" | throw .noUrl
  let request ← prepare services url route
  let page ← Act.demand (services.page request)
  let body ← liftM (logs page)
  if page.status ≠ 204 then Act.write [line url body]
  return body

/-- The connector. -/
def connector (services : Services σ) : Connector σ := .immediate (pull services)

end LogHarvest.PageConnector
