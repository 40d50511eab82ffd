import LogHarvest.Calendar.Moment
import LogHarvest.Fault
import LogHarvest.Text.Utf8

/-!
# Services

What lies outside the program: the store of secrets, web servers, the object store, the queue, the clock and a source
of fresh identifiers. `Services σ` says how each of them answers, where `σ` is all that they remember. Nothing is
assumed about the answers; laws about the program take the services as they come.
-/

namespace LogHarvest

/-- The services that the program opens a client for. -/
inductive Service
  | secrets
  | objects
  | queue
deriving DecidableEq, Repr

/-- The name under which a client is opened. -/
def Service.name : Service → Text
  | secrets => Text.ofString "secretsmanager"
  | objects => Text.ofString "s3"
  | queue => Text.ofString "sqs"

/-- A request for a page. The timeout is in seconds. -/
structure PageRequest where
  url : Text
  headers : List (Text × Text)
  params : List (Text × Text)
  timeout : Nat
deriving DecidableEq, Repr

/-- The answer of a web server; `url` is where it came from in the end. -/
structure Page where
  url : Text
  status : Int
  reason : Option Text
  body : Bytes
deriving Repr

/-- An object to be stored. -/
structure StoredObject where
  bucket : Text
  key : Text
  encoding : Text
  body : Bytes
deriving DecidableEq, Repr

/-- What a queue wants to see of a message before it deletes it. -/
structure Receipt where
  id : Json
  handle : Json
deriving Repr

/-- A call of the queue service. -/
inductive QueueCall
  | find (name : Text) (account : Option Text)
  | receive (url : Json) (most wait : Int)
  | delete (url : Json) (receipts : List Receipt)
  | countBacklog (url : Json)
deriving Repr

/-- The answer to a call of the queue service; `stop` tells that meanwhile someone asked for polling to end. -/
structure QueueReply where
  answer : Except Fault Json
  stop : Bool

/-- How the services answer. -/
structure Services (σ : Type) where
  openClient : Service → Option Text → StateM σ Unit
  secret : Text → StateM σ (Except Fault Json)
  page : PageRequest → StateM σ (Except Fault Page)
  store : StoredObject → StateM σ (Except Fault Unit)
  queue : QueueCall → StateM σ QueueReply
  freshId : StateM σ Text
  now : StateM σ Instant
  /-- Lets seconds pass. -/
  wait : Nat → StateM σ Unit

end LogHarvest
