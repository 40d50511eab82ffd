import LogHarvest.Proofs.Record
import LogHarvest.Queue.Poller
import Mathlib.Data.List.Forall2

/-!
# The calls of a poller

What each activity of a queue and of a poller puts on record, whatever the queue answers: one call
where it asks once, one call for each group where it deletes. Below that: a poller with its calls on
record does what it does without.
-/

namespace LogHarvest

variable {σ τ α β : Type}

/-! ## What is put on record -/

namespace Act

theorem runOn_callQueue (services : Services σ) (call : QueueCall) (s : Scene σ)
    {reply : QueueReply} {outside : σ}
    (h : (services.queue call).run s.outside = (reply, outside)) :
    (callQueue services call).runOn s =
      (reply.answer, if reply.stop then (stopPolling.runOn { s with outside := outside }).2
        else { s with outside := outside }) := by
  obtain ⟨answer, stop⟩ := reply
  rw [callQueue, runOn_bind, runOn_ask, h]
  cases stop <;> cases answer <;> rfl

/-- The answer is that of the queue, and the call stands on record with it. -/
theorem callQueue_of_reply {services : Services σ} {call : QueueCall} {s : Scene (Recorded σ)}
    {reply : QueueReply} (h : ((services.queue call).run s.outside.inner).1 = reply) :
    ((callQueue services.recorded call).runOn s).1 = reply.answer ∧
      ((callQueue services.recorded call).runOn s).2.calls = s.calls ++ [.queue call reply] := by
  subst h
  rw [runOn_callQueue services.recorded call s rfl]
  refine ⟨rfl, ?_⟩
  split <;> rfl

theorem callQueue_calls (services : Services σ) (call : QueueCall) (s : Scene (Recorded σ)) :
    ∃ reply, ((callQueue services.recorded call).runOn s).1 = reply.answer ∧
      ((callQueue services.recorded call).runOn s).2.calls = s.calls ++ [.queue call reply] :=
  ⟨_, callQueue_of_reply rfl⟩

theorem runOn_bind_liftM (act : Act σ α) (f : α → Except Fault β) (s : Scene σ) :
    (act >>= fun a => liftM (f a)).runOn s = ((act.runOn s).1.bind f, (act.runOn s).2) := by
  rw [runOn_bind]
  rcases act.runOn s with ⟨fault | a, s'⟩
  · rfl
  · cases hf : f a <;> simp [Except.bind, hf]

end Act

namespace QueueSource

variable (services : Services σ) (q : QueueSource) (s : Scene (Recorded σ))

variable {services q s} in
theorem receive_of_reply {reply : QueueReply}
    (h : ((services.queue (.receive q.url callLimit q.wait)).run s.outside.inner).1 = reply) :
    ((receive services.recorded q).runOn s).1 = reply.answer.bind batchOf ∧
      ((receive services.recorded q).runOn s).2.calls =
        s.calls ++ [.queue (.receive q.url callLimit q.wait) reply] := by
  obtain ⟨hanswer, hcalls⟩ := Act.callQueue_of_reply h
  rw [receive, Act.runOn_bind_liftM, hanswer, hcalls]
  exact ⟨rfl, rfl⟩

theorem receive_calls :
    ∃ reply, ((receive services.recorded q).runOn s).1 = reply.answer.bind batchOf ∧
      ((receive services.recorded q).runOn s).2.calls =
        s.calls ++ [.queue (.receive q.url callLimit q.wait) reply] :=
  ⟨_, receive_of_reply rfl⟩

theorem backlog_calls :
    ∃ reply, ((backlog services.recorded q).runOn s).1 = reply.answer.bind backlogOf ∧
      ((backlog services.recorded q).runOn s).2.calls =
        s.calls ++ [.queue (.countBacklog q.url) reply] := by
  obtain ⟨reply, hanswer, hcalls⟩ := Act.callQueue_calls services (.countBacklog q.url) s
  refine ⟨reply, ?_⟩
  rw [backlog, Act.runOn_bind_liftM, hanswer, hcalls]
  exact ⟨rfl, rfl⟩

/-- The fault of a deletion that is answered so. -/
def deletionFaultOf (reply : QueueReply) : Option Fault :=
  match reply.answer.bind deletionFault? with
  | .error fault => some fault
  | .ok fault? => fault?

/-- Fails with the fault, if there is one. -/
def failing : Option Fault → Except Fault Unit
  | some fault => .error fault
  | none => .ok ()

theorem deleteGroup_calls (group : List Receipt) :
    ∃ reply, ((deleteGroup services.recorded q group).runOn s).1 = failing (deletionFaultOf reply) ∧
      ((deleteGroup services.recorded q group).runOn s).2.calls =
        s.calls ++ [.queue (.delete q.url group) reply] := by
  obtain ⟨reply, hanswer, hcalls⟩ := Act.callQueue_calls services (.delete q.url group) s
  refine ⟨reply, ?_⟩
  rw [deleteGroup, Act.runOn_bind, ← hcalls, deletionFaultOf, ← hanswer]
  rcases (Act.callQueue services.recorded (.delete q.url group)).runOn s with ⟨fault | answer, s'⟩
  · exact ⟨rfl, rfl⟩
  · cases hf : deletionFault? answer with
    | error fault => simp [Act.runOn_bind, Except.bind, failing, hf]
    | ok fault? => cases fault? <;> simp [Act.runOn_bind, Except.bind, failing, hf]

/-- The call that deletes a group, with its reply. -/
def deletion (url : Json) (answered : List Receipt × QueueReply) : Call :=
  .queue (.delete url answered.1) answered.2

/-- Every group is called for, whatever comes of the others, and the first fault is told. -/
theorem deleteGroups_calls (gs : List (List Receipt)) :
    ∃ answered : List (List Receipt × QueueReply), answered.map (·.1) = gs ∧
      ((deleteGroups services.recorded q gs).runOn s).1 =
        .ok (answered.findSome? fun g => deletionFaultOf g.2) ∧
      ((deleteGroups services.recorded q gs).runOn s).2.calls =
        s.calls ++ answered.map (deletion q.url) := by
  induction gs generalizing s with
  | nil => exact ⟨[], rfl, rfl, (List.append_nil _).symm⟩
  | cons group rest ih =>
    obtain ⟨reply, hresult, hfirst⟩ := deleteGroup_calls services q s group
    obtain ⟨answered, hgroups, hlater, hrest⟩ :=
      ih ((deleteGroup services.recorded q group).runOn s).2
    refine ⟨(group, reply) :: answered, by rw [List.map_cons, hgroups], ?_⟩
    -- the first group may fail: the next ones are deleted all the same
    rw [hfirst, List.append_assoc] at hrest
    rw [deleteGroups, Act.runOn_bind_of_ok (Act.runOn_attempt ..),
      Act.runOn_bind_of_ok (Prod.ext hlater rfl), hresult, List.findSome?_cons, List.map_cons,
      ← List.singleton_append, deletion, ← hrest]
    cases deletionFaultOf reply <;> exact ⟨rfl, rfl⟩

/-- All groups are deleted once it is settled what is to be. -/
theorem acknowledge_answered {batch : Received} {failed : List Json} {receipts : List Receipt}
    (h : toDelete batch.receipts failed = .ok receipts) :
    ∃ answered : List (List Receipt × QueueReply), answered.map (·.1) = groups receipts ∧
      ((acknowledge services.recorded q batch failed).runOn s).1 =
        failing (answered.findSome? fun g => deletionFaultOf g.2) ∧
      ((acknowledge services.recorded q batch failed).runOn s).2.calls =
        s.calls ++ answered.map (deletion q.url) := by
  obtain ⟨answered, hgroups, hresult, hcalls⟩ := deleteGroups_calls services q s (groups receipts)
  refine ⟨answered, hgroups, ?_⟩
  rw [acknowledge, h, Act.runOn_bind_of_ok (Act.runOn_liftM_ok ..),
    Act.runOn_bind_of_ok (Prod.ext hresult rfl), ← hcalls]
  cases answered.findSome? fun g => deletionFaultOf g.2 <;> exact ⟨rfl, rfl⟩

/-- The call deletes this group. -/
def Deletes (url : Json) (group : List Receipt) (call : Call) : Prop :=
  ∃ reply, call = .queue (.delete url group) reply

theorem deletes_deletion (url : Json) (answered : List (List Receipt × QueueReply)) :
    List.Forall₂ (Deletes url) (answered.map (·.1)) (answered.map (deletion url)) := by
  induction answered with
  | nil => exact .nil
  | cons g rest ih => exact .cons ⟨g.2, rfl⟩ ih

theorem acknowledge_calls_of_ok {batch : Received} {failed : List Json} {receipts : List Receipt}
    (h : toDelete batch.receipts failed = .ok receipts) :
    ∃ deletions,
      ((acknowledge services.recorded q batch failed).runOn s).2.calls = s.calls ++ deletions ∧
      List.Forall₂ (Deletes q.url) (groups receipts) deletions := by
  obtain ⟨answered, hgroups, -, hcalls⟩ := acknowledge_answered services q s h
  exact ⟨_, hcalls, hgroups ▸ deletes_deletion q.url answered⟩

/-- Either nothing is deleted, or all groups are. -/
theorem acknowledge_calls (batch : Received) (failed : List Json) :
    ((acknowledge services.recorded q batch failed).runOn s).2.calls = s.calls ∨
      ∃ receipts deletions, toDelete batch.receipts failed = .ok receipts ∧
        ((acknowledge services.recorded q batch failed).runOn s).2.calls = s.calls ++ deletions ∧
        List.Forall₂ (Deletes q.url) (groups receipts) deletions := by
  cases hreceipts : toDelete batch.receipts failed with
  | error fault =>
    rw [acknowledge, hreceipts, Act.runOn_bind_of_error (Act.runOn_liftM_error ..)]
    exact Or.inl rfl
  | ok receipts =>
    obtain ⟨deletions, hcalls, hall⟩ := acknowledge_calls_of_ok services q s hreceipts
    exact Or.inr ⟨receipts, deletions, rfl, hcalls, hall⟩

end QueueSource

namespace Poller

theorem tolerate_calls (act : Act (Recorded σ) α) (complaint : String) (s : Scene (Recorded σ)) :
    ((tolerate act complaint).runOn s).2.calls = (act.runOn s).2.calls ∧
      ∀ a, ((tolerate act complaint).runOn s).1 = .ok (some a) → (act.runOn s).1 = .ok a := by
  rw [tolerate, Act.runOn_bind_of_ok (Act.runOn_attempt ..)]
  rcases act.runOn s with ⟨fault | a, s'⟩
  · cases hi : fault.isInterrupt <;> simp [hi, Except.map]
  · exact ⟨rfl, fun b hb => by cases hb; rfl⟩

theorem calls_tellBacklog (q : Poller (Recorded σ)) (services : Services (Recorded σ))
    (s : Scene (Recorded σ)) :
    ((q.tellBacklog services).runOn s).2.calls =
      ((q.source.backlog services).runOn s).2.calls := by
  obtain ⟨htolerated, -⟩ :=
    tolerate_calls (q.source.backlog services) "failed to read queue backlog" s
  rw [← htolerated, tellBacklog, Act.runOn_bind]
  rcases (tolerate (q.source.backlog services) "failed to read queue backlog").runOn s with
    ⟨fault | _ | n, s'⟩ <;> rfl

theorem tellBacklog_calls (q : Poller (Recorded σ)) (services : Services σ)
    (s : Scene (Recorded σ)) :
    ∃ reply, ((q.tellBacklog services.recorded).runOn s).2.calls =
      s.calls ++ [.queue (.countBacklog q.source.url) reply] := by
  obtain ⟨reply, -, hcalls⟩ := QueueSource.backlog_calls services q.source s
  exact ⟨reply, (calls_tellBacklog q services.recorded s).trans hcalls⟩

end Poller

/-! ## A poller with its calls on record -/

open Scene Act

theorem agrees_callQueue (services : Services σ) (call : QueueCall) :
    Agrees Erases (callQueue services.recorded call) (callQueue services call) := by
  refine .of_runOn ?_
  rintro s _ rfl
  rw [runOn_callQueue services.recorded call s rfl, runOn_callQueue services call s.erase rfl]
  refine ⟨rfl, ?_⟩
  show Erases (if ((services.queue call).run s.outside.inner).1.stop then _ else _)
    (if ((services.queue call).run s.outside.inner).1.stop then _ else _)
  split <;> rfl

namespace QueueSource

variable (services : Services σ) (q : QueueSource)

theorem agrees_receive : Agrees Erases (receive services.recorded q) (receive services q) :=
  (agrees_callQueue services _).bind fun _ => .liftExcept _

theorem agrees_backlog : Agrees Erases (backlog services.recorded q) (backlog services q) :=
  (agrees_callQueue services _).bind fun _ => .liftExcept _

theorem agrees_deleteGroup (group : List Receipt) :
    Agrees Erases (deleteGroup services.recorded q group) (deleteGroup services q group) := by
  refine (agrees_callQueue services _).bind fun answer =>
    (Agrees.liftExcept _).bind fun fault? => ?_
  cases fault? with
  | none => exact .pure _
  | some fault => exact .throw fault

theorem agrees_deleteGroups (gs : List (List Receipt)) :
    Agrees Erases (deleteGroups services.recorded q gs) (deleteGroups services q gs) := by
  induction gs with
  | nil => exact .pure _
  | cons group rest ih =>
    refine (agrees_deleteGroup services q group).attempt.bind fun first => ih.bind fun later => ?_
    cases first <;> exact .pure _

theorem agrees_acknowledge (batch : Received) (failed : List Json) :
    Agrees Erases (acknowledge services.recorded q batch failed)
      (acknowledge services q batch failed) := by
  refine (Agrees.liftExcept _).bind fun receipts =>
    (agrees_deleteGroups services q _).bind fun fault? => ?_
  cases fault? with
  | none => exact .pure _
  | some fault => exact .throw fault

end QueueSource

namespace Poller

variable (p : Poller σ) (services : Services σ)

/-- The poller, with its calls on record. -/
def recorded : Poller (Recorded σ) := ⟨p.pipeline.recorded, p.source, p.limit⟩

@[simp] theorem recorded_source : p.recorded.source = p.source := rfl

theorem agrees_tolerate {act : Act (Recorded σ) α} {act' : Act σ α} (h : Agrees Erases act act')
    (services : Services σ) (complaint : String) :
    Agrees Erases (tolerate act complaint) (tolerate act' complaint) := by
  refine h.attempt.bind fun r => ?_
  cases r with
  | ok a => exact .pure _
  | error fault =>
    cases hi : fault.isInterrupt with
    | true => simpa [hi] using Agrees.throw (R := Erases) fault
    | false => simpa [hi] using ((linked_erases services).note _ _ _).bind fun _ => Agrees.pure none

theorem agrees_get {next : Scene (Recorded σ) → Act (Recorded σ) α} {next' : Scene σ → Act σ α}
    (h : ∀ s, Agrees Erases (next s) (next' s.erase)) :
    Agrees Erases (get >>= next) (get >>= next') := by
  refine .of_runOn ?_
  rintro s _ rfl
  rw [runOn_bind_of_ok (runOn_get s), runOn_bind_of_ok (runOn_get s.erase)]
  exact (h s).runOn rfl

theorem agrees_setPolling (polling : Bool) :
    Agrees Erases (modify fun s : Scene (Recorded σ) => { s with polling := polling })
      (modify fun s : Scene σ => { s with polling := polling }) := by
  refine .of_runOn ?_
  rintro s _ rfl
  exact ⟨rfl, rfl⟩

theorem agrees_finish (services : Services σ) (batches : Nat) :
    Agrees Erases (finish (σ := Recorded σ) batches) (finish (σ := σ) batches) :=
  (agrees_setPolling false).bind fun _ =>
    ((linked_erases services).note _ _ _).bind fun _ => .pure _

theorem agrees_ask (batches : Nat) :
    Agrees Erases (p.recorded.ask services.recorded batches) (p.ask services batches) := by
  refine (agrees_tolerate (QueueSource.agrees_receive services p.source) services _).bind
    fun batch? => ?_
  cases batch? with
  | none => exact .pure _
  | some batch => cases hempty : batch.messages.isEmpty <;>
      simpa [hempty] using Agrees.pure (R := Erases) _

theorem agrees_tellBacklog : Agrees Erases (p.recorded.tellBacklog services.recorded)
    (p.tellBacklog services) := by
  refine (agrees_tolerate (QueueSource.agrees_backlog services p.source) services _).bind
    fun count? => ?_
  cases count? with
  | none => exact .pure _
  | some n => exact (linked_erases services).note _ _ _

theorem agrees_step [Json.Limits] (s : Progress) :
    Agrees Erases (p.recorded.step services.recorded s) (p.step services s) := by
  obtain ⟨phase, batches⟩ := s
  cases phase with
  | asking =>
    refine agrees_get fun s => ?_
    show Agrees Erases (if !s.polling || p.isSated batches then _ else _)
      (if !s.polling || p.isSated batches then _ else _)
    split
    · exact agrees_finish services batches
    · exact p.agrees_ask services batches
  | holding batch =>
    exact ((p.pipeline.linked_recorded services).process batch.messages).bind fun _ => .pure _
  | deleting batch failed =>
    exact (agrees_tolerate (QueueSource.agrees_acknowledge services p.source batch failed)
      services _).bind
      fun _ => .pure _
  | counting => exact (p.agrees_tellBacklog services).bind fun _ => .pure _
  | resting =>
    refine Agrees.bind (.of_runOn ?_) fun _ => .pure _
    rintro s _ rfl
    exact ⟨rfl, rfl⟩
  | ended => exact .pure _

theorem agrees_steps [Json.Limits] (n : Nat) (s : Progress) :
    Agrees Erases (p.recorded.steps services.recorded n s) (p.steps services n s) := by
  induction n generalizing s with
  | zero => exact .pure s
  | succ n ih =>
    unfold steps
    split
    · exact .pure s
    · exact (p.agrees_step services s).bind ih

/-- The calls that a poller makes in at most `n` steps. -/
def calls [Json.Limits] (n : Nat) (scene : Scene σ) : List Call :=
  ((p.recorded.run services.recorded n).runOn (scene.recording [])).2.calls

/-- With its calls on record a poller comes to the same. -/
theorem run_recorded [Json.Limits] (n : Nat) (scene : Scene (Recorded σ)) :
    ((p.recorded.run services.recorded n).runOn scene).1 =
      ((p.run services n).runOn scene.erase).1 ∧
      ((p.recorded.run services.recorded n).runOn scene).2.erase =
        ((p.run services n).runOn scene.erase).2 := by
  have hbegin : Agrees Erases p.recorded.begin p.begin :=
    ((linked_erases services).note _ _ _).bind fun _ =>
      (agrees_setPolling true).bind fun _ => .pure _
  exact (hbegin.bind fun s => p.agrees_steps services n s).runOn rfl

end Poller

end LogHarvest
