import LogHarvest.Proofs.Queue.Handover

/-!
# A round of a poller

A round begins where a poller asks for messages and lasts until it asks again. The steps of a poller
are put down as equations; what has to be known of a round is that receipts are handed over only
where a batch is being deleted, and then for all groups, whatever fails (`steps_deleting`,
`steps_idle`).
-/

namespace LogHarvest

variable {σ : Type}

/-! ## Calls of a round -/

/-- The calls before messages are asked for. -/
def untilReceive (calls : List Call) : List Call := calls.takeWhile fun call => !call.isReceive

/-- The call for messages that comes first, with all calls before the next one. -/
def firstRound : List Call → List Call
  | [] => []
  | call :: rest => call :: untilReceive rest

/-- The receipts that the calls hand over. -/
def handedOver (calls : List Call) : List Receipt := calls.flatMap Call.receipts

theorem untilReceive_append {calls : List Call} (h : ∀ call ∈ calls, call.isReceive = false)
    (more : List Call) : untilReceive (calls ++ more) = calls ++ untilReceive more :=
  List.takeWhile_append_of_pos fun call hcall => by simp [h call hcall]

theorem handedOver_untilReceive {calls : List Call}
    (h : ∀ call ∈ calls, call.isReceive = false ∧ call.receipts = []) (more : List Call) :
    handedOver (untilReceive (calls ++ more)) = handedOver (untilReceive more) := by
  have hnothing : handedOver calls = [] := List.flatMap_eq_nil_iff.mpr fun call hcall =>
    (h call hcall).2
  rw [untilReceive_append fun call hcall => (h call hcall).1, handedOver, List.flatMap_append]
  show handedOver calls ++ handedOver (untilReceive more) = _
  rw [hnothing, List.nil_append]

/-- With nothing in hand a poller has nothing to delete. -/
def Phase.isIdle : Phase → Bool
  | .holding _ | .deleting _ _ => false
  | _ => true

namespace Poller

variable {p : Poller σ} {services : Services σ} {s : Scene (Recorded σ)}

theorem tolerate_of_ok {act : Act σ α} {a : α} {scene scene' : Scene σ}
    (h : act.runOn scene = (.ok a, scene')) (complaint : String) :
    (tolerate act complaint).runOn scene = (.ok (some a), scene') := by
  rw [tolerate, Act.runOn_bind_of_ok (Act.runOn_attempt ..), h]
  rfl

variable [Json.Limits]

/-- The calls of a poller that asks for messages, from there to where it asks again; `batches` is
how many batches it has had, `n` how many steps it makes at most. -/
def roundCalls (p : Poller σ) (services : Services σ) (n batches : Nat) (scene : Scene σ) :
    List Call :=
  firstRound ((p.recorded.steps services.recorded n ⟨.asking, batches⟩).runOn
    (scene.recording [])).2.calls

/-! ## Steps -/

section Steps

variable (q : Poller σ) (services : Services σ) (scene : Scene σ)

theorem runOn_step_asking (batches : Nat) :
    (q.step services ⟨.asking, batches⟩).runOn scene =
      (if !scene.polling || q.isSated batches then finish batches
        else q.ask services batches).runOn scene := by
  show (get >>= fun scene : Scene σ =>
    if !scene.polling || q.isSated batches then finish batches
    else q.ask services batches).runOn scene = _
  rw [Act.runOn_bind_of_ok (Act.runOn_get scene)]

theorem runOn_step_holding (batch : Received) (batches : Nat) :
    (q.step services ⟨.holding batch, batches⟩).runOn scene =
      (((q.pipeline.process services batch.messages).runOn scene).1.map fun result =>
        ⟨.deleting batch (result.report.getD []), batches⟩,
        ((q.pipeline.process services batch.messages).runOn scene).2) := by
  show (q.pipeline.process services batch.messages >>= fun result =>
    pure (Progress.mk (.deleting batch (result.report.getD [])) batches)).runOn scene = _
  rw [bind_pure_comp, Act.runOn_map]

theorem runOn_step_deleting (batch : Received) (failed : List Json) (batches : Nat) :
    (q.step services ⟨.deleting batch failed, batches⟩).runOn scene =
      (((tolerate (q.source.acknowledge services batch failed) "failed to ack messages").runOn
        scene).1.map fun _ => ⟨.counting, batches⟩,
        ((tolerate (q.source.acknowledge services batch failed) "failed to ack messages").runOn
          scene).2) := by
  show (tolerate (q.source.acknowledge services batch failed) "failed to ack messages" >>=
    fun _ => pure (Progress.mk .counting batches)).runOn scene = _
  rw [bind_pure_comp, Act.runOn_map]

theorem runOn_step_counting (batches : Nat) :
    (q.step services ⟨.counting, batches⟩).runOn scene =
      (((q.tellBacklog services).runOn scene).1.map fun _ => ⟨.asking, batches⟩,
        ((q.tellBacklog services).runOn scene).2) := by
  show (q.tellBacklog services >>= fun _ => pure (Progress.mk .asking batches)).runOn scene = _
  rw [bind_pure_comp, Act.runOn_map]

end Steps

theorem steps_of_ok {q : Poller σ} {progress next : Progress} {scene scene' : Scene σ}
    (hended : hasEnded progress = false)
    (h : (q.step services progress).runOn scene = (.ok next, scene')) (n : Nat) :
    (q.steps services (n + 1) progress).runOn scene = (q.steps services n next).runOn scene' := by
  rw [steps, if_neg (by simp [hended]), Act.runOn_bind_of_ok h]

theorem steps_of_error {q : Poller σ} {progress : Progress} {fault : Fault} {scene scene' : Scene σ}
    (hended : hasEnded progress = false)
    (h : (q.step services progress).runOn scene = (.error fault, scene')) (n : Nat) :
    (q.steps services (n + 1) progress).runOn scene = (.error fault, scene') := by
  rw [steps, if_neg (by simp [hended]), Act.runOn_bind_of_error h]

section Calls

variable (p : Poller σ) (services : Services σ)

omit [Json.Limits] in
/-- Asking for messages makes one call, whatever the reply. -/
theorem calls_ask (batches : Nat) (s : Scene (Recorded σ)) :
    ((p.recorded.ask services.recorded batches).runOn s).2.calls =
      ((p.source.receive services.recorded).runOn s).2.calls := by
  obtain ⟨htolerated, -⟩ := tolerate_calls (p.source.receive services.recorded) "pull failed" s
  rw [runOn_ask_eq, recorded_source, ← htolerated]
  rcases (tolerate (p.source.receive services.recorded) "pull failed").runOn s with
    ⟨_ | _ | batch, s'⟩ <;> rfl

/-- What a step with nothing in hand comes to: it has asked for messages, or it has handed nothing
over and got nothing into its hands. -/
def StaysIdle (new : List Call) (next? : Except Fault Progress) : Prop :=
  (∃ call, new = [call] ∧ call.isReceive = true) ∨
    (∀ call ∈ new, call.isReceive = false ∧ call.receipts = []) ∧
      ∀ next, next? = .ok next → next.phase.isIdle = true

theorem step_idle {progress : Progress} (h : progress.phase.isIdle = true)
    (s : Scene (Recorded σ)) :
    ∃ new, ((p.recorded.step services.recorded progress).runOn s).2.calls = s.calls ++ new ∧
      StaysIdle new ((p.recorded.step services.recorded progress).runOn s).1 := by
  obtain ⟨phase, batches⟩ := progress
  cases phase with
  | asking =>
    rw [runOn_step_asking]
    split
    · exact ⟨[], (List.append_nil _).symm, Or.inr ⟨by simp, fun next hnext => by cases hnext; rfl⟩⟩
    · obtain ⟨reply, -, hcalls⟩ := QueueSource.receive_calls services p.source s
      refine ⟨[.queue (.receive p.source.url QueueSource.callLimit p.source.wait) reply], ?_,
        Or.inl ⟨_, rfl, rfl⟩⟩
      rw [calls_ask, hcalls]
  | holding batch => cases h
  | deleting batch failed => cases h
  | counting =>
    obtain ⟨reply, hcalls⟩ := tellBacklog_calls p.recorded services s
    rw [runOn_step_counting]
    refine ⟨_, hcalls, Or.inr ⟨by simp [Call.isReceive, Call.receipts], ?_⟩⟩
    intro next hnext
    cases htold : ((p.recorded.tellBacklog services.recorded).runOn s).1 with
    | error fault =>
      rw [htold] at hnext
      cases hnext
    | ok _ =>
      rw [htold] at hnext
      cases hnext
      rfl
  | resting =>
    exact ⟨[], (List.append_nil _).symm, Or.inr ⟨by simp, fun next hnext => by cases hnext; rfl⟩⟩
  | ended =>
    exact ⟨[], (List.append_nil _).symm, Or.inr ⟨by simp, fun next hnext => by cases hnext; rfl⟩⟩

/-- A step only adds to the record. -/
theorem step_grows (progress : Progress) (s : Scene (Recorded σ)) :
    s.calls <+: ((p.recorded.step services.recorded progress).runOn s).2.calls := by
  cases hidle : progress.phase.isIdle with
  | true =>
    obtain ⟨new, hcalls, -⟩ := p.step_idle services hidle s
    exact ⟨new, hcalls.symm⟩
  | false =>
    obtain ⟨phase, batches⟩ := progress
    cases phase with
    | holding batch =>
      rw [runOn_step_holding]
      rcases hrun : (p.recorded.pipeline.process services.recorded batch.messages).runOn s with
        ⟨fault | result, s'⟩
      · obtain ⟨new, _, hcalls, -⟩ := p.pipeline.process_unfinished services hrun
        exact ⟨new, hcalls.symm⟩
      · obtain ⟨entries, calls, hcalls, -⟩ := p.pipeline.process_ledger services hrun
        exact ⟨calls, hcalls.symm⟩
    | deleting batch failed =>
      obtain ⟨htolerated, -⟩ := tolerate_calls
        (p.source.acknowledge services.recorded batch failed) "failed to ack messages" s
      rw [runOn_step_deleting]
      show s.calls <+: ((tolerate (p.source.acknowledge services.recorded batch failed)
        "failed to ack messages").runOn s).2.calls
      rw [htolerated]
      rcases QueueSource.acknowledge_calls services p.source s batch failed with
        hcalls | ⟨-, deletions, -, hcalls, -⟩
      · exact ⟨[], (List.append_nil s.calls).trans hcalls.symm⟩
      · exact ⟨deletions, hcalls.symm⟩
    | asking => cases hidle
    | counting => cases hidle
    | resting => cases hidle
    | ended => cases hidle

/-! ## Runs -/

/-- Further steps only add to the record of the first one. -/
theorem step_grows_steps {progress : Progress} (hended : hasEnded progress = false) {n : Nat}
    (s : Scene (Recorded σ))
    (hgrow : ∀ next s', s'.calls <+:
      ((p.recorded.steps services.recorded n next).runOn s').2.calls) :
    ((p.recorded.step services.recorded progress).runOn s).2.calls <+:
      ((p.recorded.steps services.recorded (n + 1) progress).runOn s).2.calls := by
  rcases hr : (p.recorded.step services.recorded progress).runOn s with ⟨fault | next, s'⟩
  · exact ⟨[], by rw [steps_of_error hended hr, List.append_nil]⟩
  · rw [steps_of_ok hended hr]
    exact hgrow next s'

theorem steps_grow (n : Nat) (progress : Progress) (s : Scene (Recorded σ)) :
    s.calls <+: ((p.recorded.steps services.recorded n progress).runOn s).2.calls := by
  induction n generalizing progress s with
  | zero => exact List.prefix_rfl
  | succ n ih =>
    cases hended : hasEnded progress with
    | true =>
      rw [steps, if_pos hended]
      exact List.prefix_rfl
    | false =>
      exact (p.step_grows services progress s).trans (p.step_grows_steps services hended s ih)

/-- With nothing in hand a poller hands nothing over before it asks for messages. -/
theorem steps_idle (n : Nat) {progress : Progress} (h : progress.phase.isIdle = true)
    (s : Scene (Recorded σ)) :
    ∃ more, ((p.recorded.steps services.recorded n progress).runOn s).2.calls = s.calls ++ more ∧
      handedOver (untilReceive more) = [] := by
  induction n generalizing progress s with
  | zero => exact ⟨[], (List.append_nil _).symm, rfl⟩
  | succ n ih =>
    cases hended : hasEnded progress with
    | true =>
      rw [steps, if_pos hended]
      exact ⟨[], (List.append_nil _).symm, rfl⟩
    | false =>
      obtain ⟨new, hcalls, hstays⟩ := p.step_idle services h s
      rcases hstays with ⟨call, rfl, hreceive⟩ | ⟨hquiet, hidle⟩
      · obtain ⟨rest, hrest⟩ := p.step_grows_steps services hended s
          (p.steps_grow services n)
        refine ⟨call :: rest, ?_, by simp [untilReceive, hreceive, handedOver]⟩
        rw [← hrest, hcalls, List.append_assoc, List.singleton_append]
      · rcases hr : (p.recorded.step services.recorded progress).runOn s with ⟨fault | next, s'⟩ <;>
          rw [hr] at hcalls hidle
        · rw [steps_of_error hended hr]
          refine ⟨new, hcalls, ?_⟩
          rw [← List.append_nil new, handedOver_untilReceive hquiet]
          rfl
        · obtain ⟨more, hmore, hnothing⟩ := ih (hidle next rfl) s'
          rw [steps_of_ok hended hr]
          refine ⟨new ++ more, ?_, ?_⟩
          · rw [hmore, hcalls, List.append_assoc]
          · rw [handedOver_untilReceive hquiet, hnothing]

end Calls

/-- The deletions for a batch are called for, and nothing more before messages are asked for. -/
theorem steps_deleting (p : Poller σ) (services : Services σ) {batch : Received}
    {failed : List Json} {receipts : List Receipt}
    (h : QueueSource.toDelete batch.receipts failed = .ok receipts) (n batches : Nat)
    (s : Scene (Recorded σ)) :
    ∃ deletions more, ((p.recorded.steps services.recorded (n + 1)
        ⟨.deleting batch failed, batches⟩).runOn s).2.calls = s.calls ++ (deletions ++ more) ∧
      List.Forall₂ (QueueSource.Deletes p.source.url) (QueueSource.groups receipts) deletions ∧
      handedOver (untilReceive more) = [] := by
  obtain ⟨deletions, hcalls, hall⟩ := QueueSource.acknowledge_calls_of_ok services p.source s h
  obtain ⟨htolerated, -⟩ := tolerate_calls
    (p.source.acknowledge services.recorded batch failed) "failed to ack messages" s
  rw [hcalls] at htolerated
  have hstep := runOn_step_deleting p.recorded services.recorded s batch failed batches
  rw [recorded_source] at hstep
  rcases hr : (tolerate (p.source.acknowledge services.recorded batch failed)
      "failed to ack messages").runOn s with ⟨fault | _, s'⟩ <;>
    rw [hr] at hstep htolerated
  · rw [steps_of_error rfl hstep]
    exact ⟨deletions, [], by rw [htolerated, List.append_nil], hall, rfl⟩
  · have hidle : (Progress.mk .counting batches).phase.isIdle = true := rfl
    obtain ⟨more, hmore, hnothing⟩ := p.steps_idle services n hidle s'
    rw [steps_of_ok rfl hstep]
    exact ⟨deletions, more, by rw [hmore, htolerated, List.append_assoc], hall, hnothing⟩

omit [Json.Limits] in
/-- In a round only what is deleted is handed over. -/
theorem firstRound_of_deletes {call : Call} {work deletions more : List Call} {url : Json}
    {chosen : List Receipt} (hcall : call.receipts = [])
    (hwork : ∀ c ∈ work, c.isReceive = false ∧ c.receipts = [])
    (hall : List.Forall₂ (QueueSource.Deletes url) (QueueSource.groups chosen) deletions)
    (hnothing : handedOver (untilReceive more) = []) :
    handedOver (firstRound (call :: (work ++ (deletions ++ more)))) = chosen ∧
      work ⊆ firstRound (call :: (work ++ (deletions ++ more))) := by
  have hround : firstRound (call :: (work ++ (deletions ++ more))) =
      call :: (work ++ (deletions ++ untilReceive more)) := by
    rw [firstRound, untilReceive_append fun c hc => (hwork c hc).1,
      untilReceive_append (QueueSource.not_receive_of_deletes hall)]
  have hquiet : work.flatMap Call.receipts = [] :=
    List.flatMap_eq_nil_iff.mpr fun c hc => (hwork c hc).2
  rw [hround]
  refine ⟨?_, ?_⟩
  · rw [handedOver] at hnothing
    rw [handedOver, List.flatMap_cons, List.flatMap_append, List.flatMap_append, hcall, hquiet,
      hnothing, QueueSource.receipts_of_deletes hall, QueueSource.flatten_groups]
    simp
  · intro c hc
    exact List.mem_cons_of_mem _ (List.mem_append_left _ hc)

end Poller

end LogHarvest
