import LogHarvest.Batch.Pipeline
import LogHarvest.Queue.Source

/-!
# Polling

A poller asks a queue for messages, has each batch processed, and deletes what did not fail. It goes on until someone
asks it to end, or until it has had as many batches as it was told to. What fails on the way is worth a line; the
messages come again. After a call that failed or brought nothing it rests for a second.

A poller moves in steps, one for each thing that takes its time. A request to end may come at any time and is looked
at only before the next call for messages: a batch in hand is always brought to its end.
-/

namespace LogHarvest

/-- What a poller does next. -/
inductive Phase
  | asking
  | holding (batch : Received)
  | deleting (batch : Received) (failed : List Json)
  | counting
  | resting
  | ended
deriving Repr

/-- How far a poller has come: what it does next, and how many batches it has had. -/
structure Progress where
  phase : Phase
  batches : Nat
deriving Repr

/-- A poller; `limit` is how many batches it takes, if there is a limit. -/
structure Poller (σ : Type) where
  pipeline : Pipeline σ
  source : QueueSource
  limit : Option Int

namespace Poller

/-- The progress of a poller that has just begun. -/
def fresh : Progress := ⟨.asking, 0⟩

/-- Whether a poller has ended. -/
def hasEnded (s : Progress) : Bool :=
  match s.phase with
  | .ended => true
  | _ => false

variable {σ α : Type}

/-- Runs an activity whose failure is worth a line and no more. Orders to end the program are not held up. -/
def tolerate (act : Act σ α) (complaint : String) : Act σ (Option α) := do
  match ← Act.attempt act with
  | .ok a => return some a
  | .error fault =>
    if fault.isInterrupt then throw fault
    Act.note .error .queue complaint
    return none

/-- Whether a number of batches is all that the poller takes. -/
def isSated (p : Poller σ) (batches : Nat) : Bool := p.limit.any fun n => n ≤ (batches : Int)

/-- Comes to the end. -/
def finish (batches : Nat) : Act σ Progress := do
  modify fun scene => { scene with polling := false }
  Act.note .info .queue (Text.ofString "SQSPoller Complete.")
  return ⟨.ended, batches⟩

/-- Asks for messages. -/
def ask (p : Poller σ) (services : Services σ) (batches : Nat) : Act σ Progress := do
  match ← tolerate (p.source.receive services) "pull failed" with
  | none => return ⟨.resting, batches⟩
  | some batch =>
    if batch.messages.isEmpty then return ⟨.resting, batches⟩
    return ⟨.holding batch, batches + 1⟩

/-- Tells how many messages are in the queue. -/
def tellBacklog (p : Poller σ) (services : Services σ) : Act σ Unit := do
  match ← tolerate (p.source.backlog services) "failed to read queue backlog" with
  | none => return
  | some n =>
    Act.note .info .queue
      (Text.ofString "queue " ++ p.source.name ++ Text.ofString " backlog: " ++ Text.ofInt n)

variable [Json.Limits]

/-- The next step. -/
def step (p : Poller σ) (services : Services σ) (s : Progress) : Act σ Progress := do
  match s.phase with
  | .asking =>
    let scene ← get
    if !scene.polling || p.isSated s.batches then finish s.batches
    else p.ask services s.batches
  | .holding batch =>
    let result ← p.pipeline.process services batch.messages
    return ⟨.deleting batch (result.report.getD []), s.batches⟩
  | .deleting batch failed =>
    let _ ← tolerate (p.source.acknowledge services batch failed) "failed to ack messages"
    return ⟨.counting, s.batches⟩
  | .counting =>
    p.tellBacklog services
    return ⟨.asking, s.batches⟩
  | .resting =>
    Act.pass services 1
    return ⟨.asking, s.batches⟩
  | .ended => return s

/-- Makes at most `n` steps. -/
def steps (p : Poller σ) (services : Services σ) : Nat → Progress → Act σ Progress
  | 0, s => return s
  | n + 1, s => if hasEnded s then return s else do steps p services n (← p.step services s)

/-- Begins to poll. A request to end that came before is forgotten. -/
def begin (p : Poller σ) : Act σ Progress := do
  Act.note .info .queue (Text.ofString "Starting SQSPoller for queue " ++ p.source.name ++ Text.ofString "...")
  modify fun scene => { scene with polling := true }
  return fresh

/-- Polls for at most `n` steps. -/
def run (p : Poller σ) (services : Services σ) (n : Nat) : Act σ Progress := do
  p.steps services n (← p.begin)

end Poller

end LogHarvest
