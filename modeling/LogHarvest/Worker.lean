import LogHarvest.Batch.Pipeline
import LogHarvest.Catalog.Load
import LogHarvest.Connector.Page
import LogHarvest.Settings

/-!
# The worker

A worker is a pipeline made from settings and a catalog. What cannot start takes no batch: the catalog is read and the
clients are opened before the first one. A batch may come as an event of queue records.
-/

namespace LogHarvest.Worker

variable [Platform] {σ : Type}

/-- The connectors of a worker. -/
def connectors (services : Services σ) : Registry (Connector σ) :=
  .ofList [(PageConnector.type, PageConnector.connector services)]

/-- A list of texts as it is shown. -/
def shownList (ts : List Text) : Text := (Json.array (ts.map .string)).shown

/-- Complains about accepted types that nothing can pull. -/
def reportUnhandled (accepted handled : List Text) : Act σ Unit := do
  let unhandled := (Text.sortDistinct accepted).filter fun t => !handled.contains t
  if !unhandled.isEmpty then
    Act.note .warning .worker
      (Text.ofString "no puller registered for log source types: " ++ shownList unhandled)

/-- Starts a worker. -/
def start (services : Services σ) (files : FileTree) (settings : Settings) : Act σ (Pipeline σ) := do
  let some bucket := settings.bucket | throw (.catalog (.notSet (Text.ofString "INGESTION_BUCKET_NAME")))
  Act.ask (services.openClient .secrets settings.region)
  let sources ← Act.ofNoted (Catalog.load files settings.sourcesFolder)
  let routing ← Act.ofNoted (Routing.ofCatalog sources settings.connectorTypes settings.secretArns)
  reportUnhandled settings.connectorTypes (connectors services).types
  Act.note .info .worker
    (Text.ofString "resolved " ++ Text.ofNat routing.size ++ Text.ofString " log sources: " ++
      shownList routing.names)
  Act.ask (services.openClient .objects settings.region)
  return ⟨routing, connectors services, .ofBucket bucket, settings.cap⟩

/-- Starts a worker from environment variables, with the journal set up as they say. -/
def startFrom (services : Services σ) (files : FileTree) (env : Environment) : Act σ (Pipeline σ) := do
  let settings ← liftM (Settings.ofEnvironment env)
  Act.chooseThreshold settings.logLevel
  start services files settings

/-- The messages of an event. -/
def messagesOf (event : Json) : Except Fault (List Message) := do
  let records ← ((← event.member? "Records").getD (.array [])).parts
  records.mapM Message.ofRecord

/-- Processes the messages of an event. -/
def handle (p : Pipeline σ) (services : Services σ) (event : Json) : Act σ BatchResult := do
  Act.note .info .worker (Text.ofString "Starting....")
  p.process services (← liftM (messagesOf event))

/-- The response to an event: null if all messages may be deleted. -/
def response (result : BatchResult) : Json :=
  match result.report with
  | none => .null
  | some ids => Failures.reportJson ids

end LogHarvest.Worker
