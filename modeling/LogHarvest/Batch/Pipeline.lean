import LogHarvest.Batch.Floor

/-!
# The pipeline

A pipeline takes batches of messages. A failure of one message never concerns another: it is reported, so that the
queue delivers the message again, and the rest of the batch goes on. Only an order to end the program ends a batch
before it is through.
-/

namespace LogHarvest

/-- How batches are processed: which sources there are, what pulls them, where the logs go, and how many requests may
be in flight. -/
structure Pipeline (σ : Type) where
  routing : Routing
  connectors : Registry (Connector σ)
  writer : ArchiveWriter
  cap : Option Int

/-- What came of a batch. -/
structure BatchResult where
  report : Option (List Json)
  /-- The failures of before the first pull; those of the floor begin with them. -/
  refused : Failures
  floor : Floor

namespace Pipeline

variable {σ : Type}

/-- Begins the pull of a task. -/
def begin (p : Pipeline σ) (task : Task) : StateM (Scene σ) Pull :=
  match p.connectors.find task.route.type with
  | .ok connector => connector.pull task.route
  | .error fault => return ⟨0, .error fault⟩

/-- Archives the logs of a source; every fault but an order to end the program is a failure of its own. -/
def settle (p : Pipeline σ) (services : Services σ) (data : Bytes) (source : Text) :
    StateM (Scene σ) Stage := do
  return Floor.afterArchive source (← (p.writer.archive services data source).run)

/-- The line about a failure that is being recorded. -/
def tell (failure : Option Failure) : StateM (Scene σ) Unit :=
  modify fun scene => scene.write (failure.toList.map Failure.line)

/-- Moves a ticket on by one stage. -/
def move (p : Pipeline σ) (services : Services σ) (f : Floor) (i : Nat) (t : Ticket) :
    StateM (Scene σ) Floor :=
  match t.stage with
  | .waiting => do return f.takePermit i (← p.begin t.task)
  | .pulling answer => do
    modify fun scene => scene.pass services (t.finish - f.now)
    return f.endPull i t answer
  | .archiving data => do return f.moveTo i (← p.settle services data t.task.source)
  | .settled outcome => return f.release i outcome
  | .released outcome => do
    tell (Floor.failureOf t outcome)
    return f.record i t outcome
  | .done _ | .halted _ => return f

/-- Makes at most `n` moves. -/
def moves (p : Pipeline σ) (services : Services σ) : Nat → Floor → StateM (Scene σ) Floor
  | 0, f => return f
  | n + 1, f =>
    match f.next.bind fun i => f.tickets[i]?.map fun t => (i, t) with
    | none => return f
    | some (i, t) => do moves p services n (← p.move services f i t)

/-- Runs a floor until no move is left. Every move takes one from `Floor.todo`. -/
def run (p : Pipeline σ) (services : Services σ) (f : Floor) : StateM (Scene σ) Floor :=
  p.moves services f.todo f

/-- The permits of a cap. Without a permit nothing could ever be pulled. -/
def permits (tasks : List Task) : Option Int → Except Fault (Option Nat)
  | none => .ok none
  | some n =>
    if n < 0 then .error .negativePermits
    else if n = 0 ∧ tasks ≠ [] then .error .noPermits
    else .ok (some n.toNat)

/-- Processes a batch of messages. -/
def process [Json.Limits] (p : Pipeline σ) (services : Services σ) (messages : List Message) : Act σ BatchResult := do
  let verdicts ← Verdict.ofMessages p.routing messages
  let tasks := verdicts.filterMap Verdict.task?
  let refused := verdicts.filterMap Verdict.failure?
  Act.note .info .batch (Text.ofString "Processing " ++ Text.ofNat tasks.length ++ Text.ofString " messages.")
  let free ← liftM (permits tasks p.cap)
  let floor ← liftM (p.run services (.start tasks free refused))
  liftM floor.checkOrder
  Act.note .info .batch
    (Text.ofString "Finished batch: " ++ Text.ofNat floor.succeeded ++ Text.ofString " succeeded, " ++
      Text.ofNat floor.failures.length ++ Text.ofString " failed.")
  Act.write floor.failures.reportLines
  return ⟨floor.failures.report, refused, floor⟩

end Pipeline

end LogHarvest
