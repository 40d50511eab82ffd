import LogHarvest.Archive.Writer
import LogHarvest.Batch.Verdict
import LogHarvest.Connector.Basic

/-!
# The floor

The requests of a batch are pulled and archived side by side, at most as many at once as there are permits. The floor
has a ticket for each request, in the order of the messages. A ticket waits for a permit, pulls, archives what it
pulled, gives the permit back and records its failure, if it failed.

`next` is the order in which a batch is run: a ticket that is past its pull goes first, for that takes no time; then
the first that waits, if a permit is free; then the pull that ends first. So pulls start in the order of the messages,
each as soon as a permit is free.

An order to end the program halts the ticket that meets it, and with it the whole floor.
-/

namespace LogHarvest

/-- How far a request has come. From `pulling` to `settled` it holds a permit, and so it does when it is halted. -/
inductive Stage
  | waiting
  | pulling (answer : Except Fault Bytes)
  | archiving (data : Bytes)
  | settled (outcome : Outcome)
  | released (outcome : Outcome)
  | done (outcome : Outcome)
  | halted (order : Fault)

namespace Stage

/-- How many moves are left. -/
def rank : Stage → Nat
  | waiting => 5
  | pulling _ => 4
  | archiving _ => 3
  | settled _ => 2
  | released _ => 1
  | done _ | halted _ => 0

/-- Whether the request holds a permit. -/
def holdsPermit : Stage → Bool
  | pulling _ | archiving _ | settled _ | halted _ => true
  | _ => false

/-- Whether the pull is over and something is left to do, which takes no time. -/
def isInstant : Stage → Bool
  | archiving _ | settled _ | released _ => true
  | _ => false

/-- Whether the request waits for a permit. -/
def isWaiting : Stage → Bool
  | waiting => true
  | _ => false

/-- Whether the request is being pulled. -/
def isPulling : Stage → Bool
  | pulling _ => true
  | _ => false

/-- The outcome of a request that is through. -/
def outcome? : Stage → Option Outcome
  | done outcome => some outcome
  | _ => none

/-- The order that a request was halted by. -/
def order? : Stage → Option Fault
  | halted order => some order
  | _ => none

end Stage

/-- A request on its way; `start` and `finish` of its pull are in seconds, once it has begun. -/
structure Ticket where
  task : Task
  stage : Stage
  start : Nat
  finish : Nat

/-- Where the requests of a batch are; without a number of free permits there is no limit. -/
structure Floor where
  tickets : List Ticket
  free : Option Nat
  failures : Failures
  now : Nat

namespace Floor

/-- The floor before anything is pulled, with the failures of before. -/
def start (tasks : List Task) (permits : Option Nat) (failures : Failures) : Floor where
  tickets := tasks.map fun task => ⟨task, .waiting, 0, 0⟩
  free := permits
  failures := failures
  now := 0

/-- Whether a permit can be had. -/
def hasFree (f : Floor) : Bool := f.free != some 0

/-- How many requests hold a permit. -/
def inFlight (f : Floor) : Nat := f.tickets.countP fun t => t.stage.holdsPermit

/-- How many moves are left. -/
def todo (f : Floor) : Nat := f.tickets.foldr (fun t n => t.stage.rank + n) 0

/-! ## Moves -/

/-- Takes the ticket at a place to a stage. -/
def moveTo (f : Floor) (i : Nat) (stage : Stage) : Floor :=
  { f with tickets := f.tickets.modify i fun t => { t with stage := stage } }

/-- The ticket at a place takes a permit and begins its pull. -/
def takePermit (f : Floor) (i : Nat) (pull : Pull) : Floor :=
  { f with
    tickets := f.tickets.modify i fun t =>
      { t with stage := .pulling pull.answer, start := f.now, finish := f.now + pull.seconds }
    free := f.free.map (· - 1) }

/-- The stage after a fault that is told as `cause`. -/
def afterFault (fault cause : Fault) : Stage := if fault.isInterrupt then .halted fault else .settled (.failed cause)

/-- The stage after a pull of a source. -/
def afterPull (source : Text) : Except Fault Bytes → Stage
  | .ok data => .archiving data
  | .error fault => afterFault fault (.connector source fault)

/-- The key in the report of a failure that left no key. -/
def noKey : Text := Text.ofString "<unwritten>"

/-- The stage after the logs of a source were archived. -/
def afterArchive (source : Text) : Except Fault Outcome → Stage
  | .ok outcome => .settled outcome
  | .error fault => afterFault fault (.archive source noKey fault)

/-- The pull of the ticket at a place ends, at the time that it was due. -/
def endPull (f : Floor) (i : Nat) (t : Ticket) (answer : Except Fault Bytes) : Floor :=
  { f.moveTo i (afterPull t.task.source answer) with now := max f.now t.finish }

/-- The ticket at a place gives its permit back. -/
def release (f : Floor) (i : Nat) (outcome : Outcome) : Floor :=
  { f.moveTo i (.released outcome) with free := f.free.map (· + 1) }

/-- The failure of a request with the given outcome. -/
def failureOf (t : Ticket) : Outcome → Option Failure
  | .failed cause => some ⟨t.task.id, some t.task.source, cause⟩
  | _ => none

/-- The ticket at a place records its failure, if it failed, and is through. -/
def record (f : Floor) (i : Nat) (t : Ticket) (outcome : Outcome) : Floor :=
  { f.moveTo i (.done outcome) with failures := f.failures ++ (failureOf t outcome).toList }

/-! ## The next move -/

/-- The place of the pull that ends first; of those that end together, the first. -/
def earliest? (tickets : List Ticket) : Option Nat :=
  let pulling := tickets.filter fun t => t.stage.isPulling
  match (pulling.map (·.finish)).min? with
  | none => none
  | some finish => tickets.findIdx? fun t => t.stage.isPulling && t.finish == finish

/-- The order that has halted the floor. -/
def order? (f : Floor) : Option Fault := f.tickets.findSome? fun t => t.stage.order?

/-- Fails with the order that has halted the floor. -/
def checkOrder (f : Floor) : Except Fault Unit :=
  match f.order? with
  | some order => .error order
  | none => .ok ()

/-- The place of the ticket that moves next. On a halted floor none does. -/
def next (f : Floor) : Option Nat :=
  if f.order?.isSome then none else
  (f.tickets.findIdx? fun t => t.stage.isInstant)
    <|> (if f.hasFree then f.tickets.findIdx? fun t => t.stage.isWaiting else none)
    <|> earliest? f.tickets

/-! ## What came of it -/

/-- The outcomes so far with the ids of their messages, in the order of the messages. -/
def results (f : Floor) : List (Json × Outcome) :=
  f.tickets.filterMap fun t => t.stage.outcome?.map fun outcome => (t.task.id, outcome)

/-- How many requests succeeded. -/
def succeeded (f : Floor) : Nat := f.results.countP fun r => !r.2.isFailed

@[simp]
theorem length_moveTo (f : Floor) (i : Nat) (stage : Stage) :
    (f.moveTo i stage).tickets.length = f.tickets.length := by
  simp [moveTo]

end Floor

end LogHarvest
