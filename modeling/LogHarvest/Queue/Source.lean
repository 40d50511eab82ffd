import LogHarvest.Json.Access
import LogHarvest.Request
import LogHarvest.Scene

/-!
# The queue

Messages are received from a queue in batches. Those that did not fail are deleted, ten at a time; the others appear
again by themselves. A call for ten that fails does not keep the next ten from being deleted.
-/

namespace LogHarvest

/-- A queue that messages are received from. -/
structure QueueSource where
  name : Text
  url : Json
  /-- How many seconds a call may wait for messages. -/
  wait : Int
deriving Repr

/-- A batch as it was received: the messages, and what is needed to delete them. -/
structure Received where
  messages : List Message
  receipts : List Receipt
deriving Repr

namespace QueueSource

/-- The most messages of a call. -/
def callLimit : Nat := 10

/-- How many seconds a call waits unless it is told otherwise. -/
def standardWait : Int := 20

variable {σ : Type}

/-- Looks up the queue of a name. -/
def find (services : Services σ) (name : Text) (account : Option Text) (wait : Int) : Act σ QueueSource := do
  let answer ← Act.callQueue services (.find name account)
  return ⟨name, ← liftM (answer.demand "QueueUrl"), wait⟩

/-! ## Receiving -/

/-- The receipt of a received message. -/
def receiptOf (message : Json) : Except Fault Receipt := do
  return ⟨← message.demand "MessageId", ← message.demand "ReceiptHandle"⟩

/-- The batch in the answer to a call. -/
def batchOf (answer : Json) : Except Fault Received := do
  let received ← ((← answer.member? "Messages").getD (.array [])).parts
  let both ← received.mapM fun m => do return (← receiptOf m, ← Message.ofRecord m)
  return ⟨both.map (·.2), both.map (·.1)⟩

/-- Receives a batch; it may be empty. -/
def receive (services : Services σ) (q : QueueSource) : Act σ Received := do
  let answer ← Act.callQueue services (.receive q.url callLimit q.wait)
  liftM (batchOf answer)

/-! ## Deleting -/

/-- Fails at the first id that cannot be looked up. -/
def checkIds (ids : List Json) : Except Fault Unit :=
  match ids.find? fun id => !(Value.ofJson id).isKey with
  | none => .ok ()
  | some id => .error (.notHashable id.kindName)

/-- Whether an id is among those that failed. -/
def isAmong (failed : List Json) (id : Json) : Bool :=
  failed.any fun other => Value.sameKey (.ofJson other) (.ofJson id)

/-- The receipts of the messages that did not fail. -/
def toDelete (receipts : List Receipt) (failed : List Json) : Except Fault (List Receipt) := do
  checkIds failed
  checkIds (receipts.map (·.id))
  return receipts.filter fun r => !isAmong failed r.id

/-- The receipts in groups of at most ten. -/
def groups : List Receipt → List (List Receipt)
  | [] => []
  | r :: rest => (r :: rest.take (callLimit - 1)) :: groups (rest.drop (callLimit - 1))
termination_by rs => rs.length
decreasing_by simp only [List.length_drop, List.length_cons]; omega

/-- The fault in the answer to a deletion that did not delete everything. -/
def deletionFault? (answer : Json) : Except Fault (Option Fault) := do
  match ← answer.member? "Failed" with
  | some failed => return if failed.isTruthy then some (.deletionFailed failed) else none
  | none => return none

/-- Deletes a group of messages. -/
def deleteGroup (services : Services σ) (q : QueueSource) (group : List Receipt) : Act σ Unit := do
  let answer ← Act.callQueue services (.delete q.url group)
  match ← liftM (deletionFault? answer) with
  | some fault => throw fault
  | none => return

/-- Deletes one group after another, whatever comes of each; tells the first fault. -/
def deleteGroups (services : Services σ) (q : QueueSource) : List (List Receipt) → Act σ (Option Fault)
  | [] => return none
  | group :: rest => do
    let first ← Act.attempt (deleteGroup services q group)
    let later ← deleteGroups services q rest
    match first with
    | .error fault => return some fault
    | .ok () => return later

/-- Deletes the messages of a batch that did not fail. -/
def acknowledge (services : Services σ) (q : QueueSource) (batch : Received) (failed : List Json) : Act σ Unit := do
  let receipts ← liftM (toDelete batch.receipts failed)
  match ← deleteGroups services q (groups receipts) with
  | some fault => throw fault
  | none => return

/-! ## The backlog -/

/-- The name of the attribute that counts the messages in the queue. -/
def backlogAttribute : String := "ApproximateNumberOfMessages"

/-- The number of messages in the answer to a call; without a count it is zero. -/
def backlogOf (answer : Json) : Except Fault Int := do
  let counts ← answer.demand "Attributes"
  if ← counts.mentions backlogAttribute then (← counts.demand backlogAttribute).toInteger else return 0

/-- About how many messages are in the queue. -/
def backlog (services : Services σ) (q : QueueSource) : Act σ Int := do
  let answer ← Act.callQueue services (.countBacklog q.url)
  liftM (backlogOf answer)

/-! ## Lemmas -/

/-- Nothing is lost between the groups. -/
theorem flatten_groups (rs : List Receipt) : (groups rs).flatten = rs := by
  fun_induction groups rs with
  | case1 => rfl
  | case2 r rest ih => simp [ih, List.take_append_drop]

/-- No group is empty, and none is too long for a call. -/
theorem length_of_mem_groups {rs g : List Receipt} (h : g ∈ groups rs) : 1 ≤ g.length ∧ g.length ≤ callLimit := by
  fun_induction groups rs with
  | case1 => simp at h
  | case2 r rest ih =>
    rcases List.mem_cons.1 h with rfl | h
    · simp only [List.length_cons, List.length_take, callLimit]
      omega
    · exact ih h

end QueueSource

end LogHarvest
