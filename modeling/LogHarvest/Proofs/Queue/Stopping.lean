import LogHarvest.Proofs.Batch.Isolation
import LogHarvest.Proofs.Queue.Redelivery

/-!
# Stopping a poller

A poller looks at a request to end only before it asks for messages, and such a request may come at
any time: between two steps, while the queue answers, while a batch is processed. Nothing that the
poller does takes the request back (`Keeps`), and each step brings the end nearer (`Phase.left`). So
the poller asks no more, brings the batch in hand to its end, and ends (`steps_stopped`).

Beginning to poll takes back whatever came before, so a request that comes before that is lost.
-/

namespace LogHarvest

variable {σ α : Type}

/-- Polling has been asked to end. -/
def Scene.IsStopped (s : Scene σ) : Prop := s.polling = false

/-- No connector sets polling going again while it pulls. -/
def Pipeline.NeverResumes (p : Pipeline σ) : Prop :=
  ∀ type connector, p.connectors.find type = .ok connector → ∀ route (s : Scene σ),
    s.IsStopped → ((connector.pull route).run s).2.IsStopped

open Scene Act

theorem exists_of_map_eq_ok {ε β : Type} {e : Except ε α} {f : α → β} {b : β}
    (h : e.map f = .ok b) : ∃ a, e = .ok a ∧ f a = b := by
  cases e with
  | ok a => exact ⟨a, rfl, Except.ok.inj h⟩
  | error fault => cases h

/-! ## What a poller keeps -/

namespace Act.Leads

variable {I : Scene σ → Prop}

theorem keep_pure (a : α) : Leads I (Pure.pure a) (fun _ => I) I := .pure fun _ hs => hs

theorem keep_throw (fault : Fault) : Leads I (MonadExcept.throw fault : Act σ α) (fun _ => I) I :=
  .throw fun _ hs => hs

theorem keep_lift (e : Except Fault α) : Leads I (liftM e : Act σ α) (fun _ => I) I :=
  .liftExcept (fun _ _ _ hs => hs) fun _ hs => hs

theorem after {act : Act σ α} (h : Leads I act (fun _ => I) I) {s : Scene σ} (hs : I s) :
    I (act.runOn s).2 := by
  obtain ⟨hok, herror⟩ := h s hs
  rcases hr : (act.runOn s).1 with fault | a
  · exact herror fault hr
  · exact hok a hr

theorem of_runOn {act : Act σ α} (h : Leads I act (fun _ => I) I) {s s' : Scene σ}
    {result : Except Fault α} (hs : I s) (hrun : act.runOn s = (result, s')) : I s' := by
  have hafter := h.after hs
  rwa [hrun] at hafter

/-- What an activity keeps it also keeps where its failure is told. -/
theorem attempt {act : Act σ α} (h : Leads I act (fun _ => I) I) :
    Leads I (Act.attempt act) (fun _ => I) I := by
  intro s hs
  rw [runOn_attempt]
  exact ⟨fun _ _ => h.after hs, fun _ hfault => (by cases hfault)⟩

end Act.Leads

/-- Neither a line nor a call of the queue takes a scene out of `I`. -/
structure QueueSource.Keeps (services : Services σ) (I : Scene σ → Prop) : Prop where
  write : ∀ lines s, I s → I (s.write lines)
  call : ∀ call, Leads I (callQueue services call) (fun _ => I) I

namespace QueueSource.Keeps

variable {services : Services σ} {I : Scene σ → Prop} (h : Keeps services I) (q : QueueSource)

include h

theorem note (level : Level) (topic : Topic) (text : Text) :
    Leads I (Act.note level topic text) (fun _ => I) I :=
  .write fun s hs => h.write _ s hs

theorem receive : Leads I (q.receive services) (fun _ => I) I :=
  (h.call _).bind fun _ => Leads.keep_lift _

theorem backlog : Leads I (q.backlog services) (fun _ => I) I :=
  (h.call _).bind fun _ => Leads.keep_lift _

theorem deleteGroup (group : List Receipt) :
    Leads I (q.deleteGroup services group) (fun _ => I) I := by
  refine (h.call _).bind fun answer => (Leads.keep_lift _).bind fun fault? => ?_
  cases fault? with
  | none => exact Leads.keep_pure _
  | some fault => exact Leads.keep_throw _

theorem deleteGroups (gs : List (List Receipt)) :
    Leads I (q.deleteGroups services gs) (fun _ => I) I := by
  induction gs with
  | nil => exact Leads.keep_pure _
  | cons group rest ih =>
    refine (h.deleteGroup q group).attempt.bind fun first => ih.bind fun later => ?_
    cases first <;> exact Leads.keep_pure _

theorem acknowledge (batch : Received) (failed : List Json) :
    Leads I (q.acknowledge services batch failed) (fun _ => I) I := by
  refine (Leads.keep_lift _).bind fun receipts => (h.deleteGroups q _).bind fun fault? => ?_
  cases fault? with
  | none => exact Leads.keep_pure _
  | some fault => exact Leads.keep_throw _

theorem tolerate {act : Act σ α} (hact : Leads I act (fun _ => I) I) (complaint : String) :
    Leads I (Poller.tolerate act complaint) (fun _ => I) I := by
  refine hact.attempt.bind fun r => ?_
  cases r with
  | ok a => exact Leads.keep_pure _
  | error fault =>
    cases hi : fault.isInterrupt with
    | true => simpa [hi] using Leads.keep_throw fault
    | false => simpa [hi] using (h.note _ _ _).bind fun _ => Leads.keep_pure none

theorem tellBacklog (p : Poller σ) : Leads I (p.tellBacklog services) (fun _ => I) I := by
  refine (h.tolerate (h.backlog p.source) _).bind fun count? => ?_
  cases count? with
  | none => exact Leads.keep_pure _
  | some n => exact h.note _ _ _

theorem ask (p : Poller σ) (batches : Nat) : Leads I (p.ask services batches) (fun _ => I) I := by
  refine (h.tolerate (h.receive p.source) _).bind fun batch? => ?_
  cases batch? with
  | none => exact Leads.keep_pure _
  | some batch => cases hempty : batch.messages.isEmpty <;>
      simpa [hempty] using Leads.keep_pure _

end QueueSource.Keeps

namespace Poller

variable [Json.Limits]

/-- Nothing that the poller does takes a scene out of `I`. -/
structure Keeps (p : Poller σ) (services : Services σ) (I : Scene σ → Prop) : Prop
    extends QueueSource.Keeps services I where
  pass : ∀ seconds s, I s → I (s.pass services seconds)
  finish : ∀ s, I s → I { s with polling := false }
  process : ∀ messages, Leads I (p.pipeline.process services messages) (fun _ => I) I

namespace Keeps

variable {p : Poller σ} {services : Services σ} {I : Scene σ → Prop} (h : p.Keeps services I)

include h

theorem step (progress : Progress) :
    Leads I (p.step services progress) (fun _ => I) I := by
  obtain ⟨phase, batches⟩ := progress
  cases phase with
  | asking =>
    intro s
    rw [runOn_step_asking]
    split
    · exact (Leads.modify h.finish).bind (fun _ => (h.note _ _ _).bind fun _ => Leads.keep_pure _) s
    · exact h.ask p batches s
  | holding batch => exact (h.process _).bind fun _ => Leads.keep_pure _
  | deleting batch failed =>
    exact (h.tolerate (h.acknowledge p.source batch failed) _).bind fun _ => Leads.keep_pure _
  | counting => exact (h.tellBacklog p).bind fun _ => Leads.keep_pure _
  | resting => exact (Leads.modify (h.pass 1)).bind fun _ => Leads.keep_pure _
  | ended => exact Leads.keep_pure _

end Keeps

end Poller

/-! ## Polling stays stopped -/

/-- The scene, where polling has been asked to end. -/
def Scene.StoppedAlike (s s' : Scene σ) : Prop := s = s' ∧ s.IsStopped

theorem Shelf.neverResumes (cap : Option Int) : (Shelf.pipeline cap).NeverResumes := by
  intro type connector hfind route s hs
  rw [Shelf.eq_connector hfind]
  exact hs

theorem Scene.agrees_ask_stopped (question : StateM σ α) :
    Agrees StoppedAlike (Act.ask question) (Act.ask question) := by
  refine .of_runOn ?_
  rintro s _ ⟨rfl, hs⟩
  exact ⟨rfl, rfl, hs⟩

theorem Scene.linked_stoppedAlike (services : Services σ) :
    Linked StoppedAlike services services where
  write := by
    rintro lines s _ ⟨rfl, hs⟩
    exact ⟨rfl, hs⟩
  pass := by
    rintro seconds s _ ⟨rfl, hs⟩
    exact ⟨rfl, hs⟩
  freshId := agrees_ask_stopped _
  store _ := agrees_ask_stopped _

namespace PageConnector

theorem linked_stoppedAlike [Json.Limits] (services : Services σ) :
    Linked StoppedAlike Eq services services where
  toLinked := Scene.linked_stoppedAlike services
  kept := by
    rintro s _ ⟨rfl, -⟩ arn
    exact rel_self (fun _ => rfl) (s.kept.lookup arn)
  secret arn := Act.Matches.eq_iff.mpr
    ((Agrees.demand (agrees_ask_stopped _)).bind fun answer => .liftExcept _)
  keep := by
    rintro arn secret _ rfl s _ ⟨rfl, hs⟩
    exact ⟨rfl, hs⟩
  now := agrees_ask_stopped _
  page := by
    rintro url route params secret _ rfl
    exact agrees_ask_stopped _

end PageConnector

/-- A worker has one connector. -/
theorem Worker.eq_connector [Platform] {p : Pipeline σ} {services : Services σ} {type : Text}
    {connector : Connector σ} (h : p.connectors = connectors services)
    (hfind : p.connectors.find type = .ok connector) :
    connector = PageConnector.connector services := by
  rw [h, Registry.find_eq_ok_iff] at hfind
  simp only [connectors, Registry.ofList, lastNamed, putNamed, List.foldl_cons, List.foldl_nil,
    List.lookup_cons, List.lookup_nil] at hfind
  split at hfind
  · exact (Option.some.inj hfind).symm
  · cases hfind

/-- The connectors of a worker never set polling going. -/
theorem Worker.neverResumes [Platform] {p : Pipeline σ} {services : Services σ}
    (h : p.connectors = connectors services) : p.NeverResumes := by
  intro type connector hfind route s hs
  rw [Worker.eq_connector h hfind]
  exact (((PageConnector.linked_stoppedAlike services).pull route).runOn ⟨rfl, hs⟩).2.2

namespace Pipeline

variable {p : Pipeline σ} (services : Services σ)

theorem linked_stoppedAlike (h : p.NeverResumes) : p.Linked StoppedAlike p services services where
  toLinked := Scene.linked_stoppedAlike services
  routing := rfl
  writer := rfl
  cap := rfl
  begin task := by
    unfold Pipeline.begin
    cases hfind : p.connectors.find task.route.type with
    | ok connector =>
      rintro s _ ⟨rfl, hs⟩
      exact ⟨rfl, rfl, h _ connector hfind task.route s hs⟩
    | error fault => exact Agree.pure _

/-- A batch does not set polling going again. -/
theorem process_stopped [Json.Limits] (h : p.NeverResumes) (messages : List Message) {s : Scene σ}
    (hs : s.IsStopped) : ((p.process services messages).runOn s).2.IsStopped :=
  (((linked_stoppedAlike services h).process messages).runOn ⟨rfl, hs⟩).2.2

theorem neverResumes_recorded (h : p.NeverResumes) : p.recorded.NeverResumes := by
  intro type connector hfind route s hs
  rw [find_recorded] at hfind
  cases hinner : p.connectors.find type with
  | ok inner =>
    rw [hinner] at hfind
    cases hfind
    exact h type inner hinner route s.erase hs
  | error fault =>
    rw [hinner] at hfind
    cases hfind

end Pipeline

/-- Polling ends if it has been asked to, before the call or meanwhile. -/
theorem Act.isStopped_callQueue {services : Services σ} {call : QueueCall} {s : Scene σ}
    (h : s.IsStopped ∨ ((services.queue call).run s.outside).1.stop = true) :
    ((callQueue services call).runOn s).2.IsStopped := by
  rw [runOn_callQueue services call s rfl]
  split
  · rfl
  · next hstop => exact h.resolve_right hstop

namespace Poller

variable {p : Poller σ} {services : Services σ}

variable (services) in
theorem keeps_isStopped [Json.Limits] (h : p.pipeline.NeverResumes) :
    p.Keeps services IsStopped where
  write _ _ hs := hs
  pass _ _ hs := hs
  finish _ _ := rfl
  call _ _ hs := ⟨fun _ _ => isStopped_callQueue (Or.inl hs),
    fun _ _ => isStopped_callQueue (Or.inl hs)⟩
  process messages _ hs := ⟨fun _ _ => Pipeline.process_stopped services h messages hs,
    fun _ _ => Pipeline.process_stopped services h messages hs⟩

end Poller

/-! ## Requests that come while the queue answers -/

/-- Whether someone asked for polling to end while the call was answered. -/
def Call.stops : Call → Bool
  | queue _ reply => reply.stop
  | _ => false

/-- If a request to end came with an answer, polling has been asked to end. -/
def Scene.HasHeard (s : Scene (Recorded σ)) : Prop :=
  (∃ call ∈ s.calls, call.stops = true) → s.IsStopped

theorem Scene.HasHeard.append {s s' : Scene (Recorded σ)} {new : List Call} (h : s.HasHeard)
    (hcalls : s'.calls = s.calls ++ new) (hkept : s.IsStopped → s'.IsStopped)
    (hnew : ∀ call ∈ new, call.stops = true → s'.IsStopped) : s'.HasHeard := by
  rintro ⟨call, hcall, hstops⟩
  rw [hcalls, List.mem_append] at hcall
  rcases hcall with hcall | hcall
  · exact hkept (h ⟨call, hcall, hstops⟩)
  · exact hnew call hcall hstops

namespace Poller

variable {p : Poller σ} {services : Services σ}

theorem not_stops_of_isWork {call : Call} (h : call.IsWork) : ¬ call.stops = true := by
  rcases h with ⟨route, pull, rfl⟩ | ⟨object, answer, rfl⟩ <;> exact Bool.false_ne_true

variable [Json.Limits]

theorem hasHeard_process (h : p.pipeline.NeverResumes) (messages : List Message)
    {s : Scene (Recorded σ)} (hs : s.HasHeard) :
    ((p.recorded.pipeline.process services.recorded messages).runOn s).2.HasHeard := by
  have hkept : s.IsStopped →
      ((p.recorded.pipeline.process services.recorded messages).runOn s).2.IsStopped :=
    Pipeline.process_stopped services.recorded (Pipeline.neverResumes_recorded h) messages
  rcases hrun : (p.recorded.pipeline.process services.recorded messages).runOn s with
    ⟨fault | result, s'⟩ <;> rw [hrun] at hkept
  · obtain ⟨calls, _, hcalls, haccounts, -⟩ := p.pipeline.process_unfinished services hrun
    exact hs.append hcalls hkept fun call hcall hstops =>
      absurd hstops (not_stops_of_isWork (Pipeline.isWork_of_accounts haccounts hcall))
  · obtain ⟨entries, calls, hcalls, hledger, -⟩ := p.pipeline.process_ledger services hrun
    exact hs.append hcalls hkept fun call hcall hstops =>
      absurd hstops (not_stops_of_isWork (Pipeline.isWork_of_ledger hledger hcall))

variable (services) in
theorem keeps_hasHeard (h : p.pipeline.NeverResumes) :
    p.recorded.Keeps services.recorded HasHeard where
  write _ _ hs := hs
  pass _ _ hs := hs
  finish _ _ := fun _ => rfl
  call call s hs := by
    have hafter : ((callQueue services.recorded call).runOn s).2.HasHeard := by
      obtain ⟨-, hcalls⟩ :=
        callQueue_of_reply (rfl : ((services.queue call).run s.outside.inner).1 = _)
      refine hs.append hcalls (fun hstopped => isStopped_callQueue (Or.inl hstopped)) ?_
      intro c hc hstops
      cases List.mem_singleton.mp hc
      exact isStopped_callQueue (Or.inr hstops)
    exact ⟨fun _ _ => hafter, fun _ _ => hafter⟩
  process messages _ hs := ⟨fun _ _ => hasHeard_process h messages hs,
    fun _ _ => hasHeard_process h messages hs⟩

/-! ## Calls behind a request -/

section Calls

/-- Behind a call that brought a request to end, messages are not asked for. -/
def Heeds (calls : List Call) : Prop :=
  calls.Pairwise fun call later => call.stops = true → later.isReceive = false

variable (p : Poller σ) (services : Services σ)

/-- A step asks for messages only while polling goes on, and then for nothing more. -/
theorem step_calls (progress : Progress) (s : Scene (Recorded σ)) :
    ∃ new, ((p.recorded.step services.recorded progress).runOn s).2.calls = s.calls ++ new ∧
      ((∃ call, new = [call] ∧ ¬ s.IsStopped) ∨ ∀ call ∈ new, call.isReceive = false) := by
  obtain ⟨phase, batches⟩ := progress
  cases phase with
  | asking =>
    rw [runOn_step_asking]
    split
    · exact ⟨[], (List.append_nil _).symm, Or.inr (by simp)⟩
    · next hgoes =>
      obtain ⟨reply, -, hcalls⟩ := QueueSource.receive_calls services p.source s
      refine ⟨_, (calls_ask p services batches s).trans hcalls, Or.inl ⟨_, rfl, ?_⟩⟩
      intro hstopped
      rw [IsStopped] at hstopped
      simp [hstopped] at hgoes
  | holding batch =>
    rw [runOn_step_holding]
    rcases hrun : (p.recorded.pipeline.process services.recorded batch.messages).runOn s with
      ⟨fault | result, s'⟩
    · obtain ⟨calls, _, hcalls, haccounts, -⟩ := p.pipeline.process_unfinished services hrun
      exact ⟨calls, hcalls, Or.inr fun c hc =>
        (Pipeline.isWork_of_accounts haccounts hc).not_queue.1⟩
    · obtain ⟨entries, calls, hcalls, hledger, -⟩ := p.pipeline.process_ledger services hrun
      exact ⟨calls, hcalls, Or.inr fun c hc => (Pipeline.not_queue_of_ledger hledger hc).1⟩
  | deleting batch failed =>
    obtain ⟨htolerated, -⟩ := tolerate_calls
      (p.source.acknowledge services.recorded batch failed) "failed to ack messages" s
    rw [runOn_step_deleting]
    rcases QueueSource.acknowledge_calls services p.source s batch failed with
      hcalls | ⟨receipts, deletions, -, hcalls, hall⟩
    · exact ⟨[], htolerated.trans (hcalls.trans (List.append_nil _).symm), Or.inr (by simp)⟩
    · exact ⟨deletions, htolerated.trans hcalls,
        Or.inr (QueueSource.not_receive_of_deletes hall)⟩
  | counting =>
    obtain ⟨reply, hcalls⟩ := tellBacklog_calls p.recorded services s
    rw [runOn_step_counting]
    exact ⟨_, hcalls, Or.inr (by simp [Call.isReceive])⟩
  | resting => exact ⟨[], (List.append_nil _).symm, Or.inr (by simp)⟩
  | ended => exact ⟨[], (List.append_nil _).symm, Or.inr (by simp)⟩

theorem step_heeds (progress : Progress) {s : Scene (Recorded σ)} (hs : s.HasHeard)
    (h : Heeds s.calls) :
    Heeds ((p.recorded.step services.recorded progress).runOn s).2.calls := by
  obtain ⟨new, hcalls, hnew⟩ := p.step_calls services progress s
  rw [hcalls, Heeds, List.pairwise_append]
  refine ⟨h, ?_, ?_⟩
  · rcases hnew with ⟨call, rfl, -⟩ | hquiet
    · exact List.pairwise_singleton _ _
    · exact List.pairwise_of_forall_mem_list fun _ _ later hlater _ => hquiet later hlater
  · intro call hcall later hlater hstops
    rcases hnew with ⟨only, rfl, hgoes⟩ | hquiet
    · exact absurd (hs ⟨call, hcall, hstops⟩) hgoes
    · exact hquiet later hlater

theorem steps_heed (hp : p.pipeline.NeverResumes) (n : Nat) (progress : Progress)
    {s : Scene (Recorded σ)} (hs : s.HasHeard) (h : Heeds s.calls) :
    Heeds ((p.recorded.steps services.recorded n progress).runOn s).2.calls := by
  induction n generalizing progress s with
  | zero => exact h
  | succ n ih =>
    have hstep := p.step_heeds services progress hs h
    obtain ⟨hheard, -⟩ := (keeps_hasHeard services hp).step progress s hs
    unfold steps
    split
    · exact h
    · rcases hr : (p.recorded.step services.recorded progress).runOn s with ⟨fault | next, s'⟩ <;>
        rw [hr] at hstep hheard
      · rw [runOn_bind_of_error hr]
        exact hstep
      · rw [runOn_bind_of_ok hr]
        exact ih next (hheard next rfl) hstep

/-- Once polling has been asked to end, messages are not asked for. -/
theorem steps_quiet (hp : p.pipeline.NeverResumes) (n : Nat) (progress : Progress)
    {s : Scene (Recorded σ)} (hs : s.IsStopped) :
    ∃ new, ((p.recorded.steps services.recorded n progress).runOn s).2.calls = s.calls ++ new ∧
      ∀ call ∈ new, call.isReceive = false := by
  induction n generalizing progress s with
  | zero => exact ⟨[], (List.append_nil _).symm, by simp⟩
  | succ n ih =>
    obtain ⟨new, hcalls, hnew⟩ := p.step_calls services progress s
    have hquiet := hnew.resolve_left fun ⟨_, _, hgoes⟩ => hgoes hs
    obtain ⟨hstopped, -⟩ := (keeps_isStopped (p := p.recorded) services.recorded
      (Pipeline.neverResumes_recorded hp)).step progress s hs
    unfold steps
    split
    · exact ⟨[], (List.append_nil _).symm, by simp⟩
    · rcases hr : (p.recorded.step services.recorded progress).runOn s with ⟨fault | next, s'⟩ <;>
        rw [hr] at hcalls hstopped
      · rw [runOn_bind_of_error hr]
        exact ⟨new, hcalls, hquiet⟩
      · obtain ⟨more, hmore, hlater⟩ := ih next (hstopped next rfl)
        rw [runOn_bind_of_ok hr]
        refine ⟨new ++ more, ?_, fun call hcall => ?_⟩
        · rw [hmore, hcalls, List.append_assoc]
        · exact (List.mem_append.mp hcall).elim (hquiet call) (hlater call)

end Calls

/-! ## The end comes nearer -/

end Poller

/-- How many steps are left at most, once polling has been asked to end. -/
def Phase.left : Phase → Nat
  | .holding _ => 4
  | .deleting .. => 3
  | .counting | .resting => 2
  | .asking => 1
  | .ended => 0

namespace Poller

/-- Only an order to end the program is not tolerated. -/
theorem isInterrupt_of_tolerate {act : Act σ α} {complaint : String} {s : Scene σ} {fault : Fault}
    (h : ((tolerate act complaint).runOn s).1 = .error fault) : fault.isInterrupt = true := by
  rw [tolerate, Act.runOn_bind_of_ok (Act.runOn_attempt ..)] at h
  rcases hr : act.runOn s with ⟨fault' | a, s'⟩ <;> rw [hr] at h
  · cases hi : fault'.isInterrupt with
    | true =>
      simp only [hi, if_true] at h
      cases h
      exact hi
    | false =>
      simp only [hi] at h
      cases h
  · cases h

section Steps

variable [Json.Limits] (q : Poller σ) (services : Services σ) {progress : Progress} {s : Scene σ}

/-- What a step can fail with: an order to end the program, or what brings down a batch. -/
theorem step_fault {fault : Fault} (h : ((q.step services progress).runOn s).1 = .error fault) :
    fault.isInterrupt = true ∨ ∃ batch, progress.phase = .holding batch ∧
      ((q.pipeline.process services batch.messages).runOn s).1 = .error fault := by
  obtain ⟨phase, batches⟩ := progress
  cases phase with
  | asking =>
    rw [runOn_step_asking] at h
    split at h
    · cases h
    · rw [runOn_ask_eq] at h
      rcases hr : (tolerate (q.source.receive services) "pull failed").runOn s with
        ⟨fault' | _ | batch, s'⟩ <;> rw [hr] at h <;> cases h
      exact Or.inl (isInterrupt_of_tolerate (congrArg Prod.fst hr))
  | holding batch =>
    rw [runOn_step_holding] at h
    refine Or.inr ⟨batch, rfl, ?_⟩
    rcases hr : ((q.pipeline.process services batch.messages).runOn s).1 with fault' | result <;>
      rw [hr] at h <;> cases h
    rfl
  | deleting batch failed =>
    rw [runOn_step_deleting] at h
    rcases hr : (tolerate (q.source.acknowledge services batch failed)
      "failed to ack messages").runOn s with ⟨fault' | _, s'⟩ <;> rw [hr] at h <;> cases h
    exact Or.inl (isInterrupt_of_tolerate (congrArg Prod.fst hr))
  | counting =>
    rw [runOn_step_counting, tellBacklog, Act.runOn_bind] at h
    rcases hr : (tolerate (q.source.backlog services) "failed to read queue backlog").runOn s with
      ⟨fault' | _ | count, s'⟩ <;> rw [hr] at h <;> cases h
    exact Or.inl (isInterrupt_of_tolerate (congrArg Prod.fst hr))
  | resting => cases h
  | ended => cases h

/-- Once polling has been asked to end, every step brings the end nearer. -/
theorem left_step (hs : s.IsStopped) (hended : hasEnded progress = false) {next : Progress}
    (h : ((q.step services progress).runOn s).1 = .ok next) :
    next.phase.left < progress.phase.left := by
  obtain ⟨phase, batches⟩ := progress
  cases phase with
  | asking =>
    have hstops : (!s.polling || q.isSated batches) = true := by
      rw [show s.polling = false from hs]
      rfl
    rw [runOn_step_asking, if_pos hstops] at h
    cases h
    simp [Phase.left]
  | holding batch =>
    rw [runOn_step_holding] at h
    obtain ⟨result, -, rfl⟩ := exists_of_map_eq_ok h
    simp [Phase.left]
  | deleting batch failed =>
    rw [runOn_step_deleting] at h
    obtain ⟨_, -, rfl⟩ := exists_of_map_eq_ok h
    simp [Phase.left]
  | counting =>
    rw [runOn_step_counting] at h
    obtain ⟨_, -, rfl⟩ := exists_of_map_eq_ok h
    simp [Phase.left]
  | resting =>
    cases h
    simp [Phase.left]
  | ended => cases hended

/-- The poller has come to its end, unless the program was told to end. -/
def Returns (result : Except Fault Progress) : Prop :=
  (∃ batches, result = .ok ⟨.ended, batches⟩) ∨
    ∃ fault, result = .error fault ∧ fault.isInterrupt = true

/-- Once polling has been asked to end, the poller returns, unless the batch in hand is brought
down. -/
theorem steps_stopped (hq : q.pipeline.NeverResumes) {n : Nat} (hn : progress.phase.left ≤ n)
    (hs : s.IsStopped) :
    Returns ((q.steps services n progress).runOn s).1 ∨
      ∃ batch fault, progress.phase = .holding batch ∧
        ((q.pipeline.process services batch.messages).runOn s).1 = .error fault ∧
        ((q.steps services n progress).runOn s).1 = .error fault := by
  induction n generalizing progress s with
  | zero =>
    obtain ⟨phase, batches⟩ := progress
    cases phase <;> simp [Phase.left] at hn
    exact Or.inl (Or.inl ⟨batches, rfl⟩)
  | succ n ih =>
    cases hended : hasEnded progress with
    | true =>
      obtain ⟨phase, batches⟩ := progress
      cases phase <;> cases hended
      exact Or.inl (Or.inl ⟨batches, rfl⟩)
    | false =>
      obtain ⟨hstopped, -⟩ := (keeps_isStopped services hq).step progress s hs
      rcases hr : (q.step services progress).runOn s with ⟨fault | next, s'⟩
      · rw [steps_of_error hended hr]
        rcases q.step_fault services (congrArg Prod.fst hr) with hi | ⟨batch, hphase, hprocess⟩
        · exact Or.inl (Or.inr ⟨fault, rfl, hi⟩)
        · exact Or.inr ⟨batch, fault, hphase, hprocess, rfl⟩
      · rw [hr] at hstopped
        have hleft := q.left_step services hs hended (congrArg Prod.fst hr)
        rw [steps_of_ok hended hr]
        refine Or.inl ((ih (by omega) (hstopped next rfl)).resolve_right ?_)
        -- a batch is in hand only at the beginning
        rintro ⟨batch, -, hphase, -, -⟩
        rw [hphase] at hleft
        cases hp : progress.phase <;> rw [hp] at hleft <;> simp [Phase.left] at hleft

end Steps

/-! ## What is in hand is brought to its end -/

end Poller

/-- What the pipeline gives up on: a message that exceeds the reader, if it has permits at all. -/
def Pipeline.GivesUpOn [Json.Limits] (p : Pipeline σ) (messages : List Message) : Prop :=
  (∃ m ∈ messages, m.ExceedsReader) ∨ ∃ n, p.cap = some n ∧ n < 1

namespace Poller

/-- The calls hand over all of the batch that did not fail, if the ids can be compared at all. -/
def HandsOver (url : Json) (batch : Received) (failed : List Json) (calls : List Call) : Prop :=
  ∀ receipts, QueueSource.toDelete batch.receipts failed = .ok receipts →
    ∃ deletions more, calls = deletions ++ more ∧
      List.Forall₂ (QueueSource.Deletes url) (QueueSource.groups receipts) deletions ∧
      handedOver more = []

theorem untilReceive_of_quiet {calls : List Call} (h : ∀ call ∈ calls, call.isReceive = false) :
    untilReceive calls = calls := by
  rw [← List.append_nil calls, untilReceive_append h]
  rfl

theorem runOn_begin (p : Poller σ) (scene : Scene σ) :
    p.begin.runOn scene = (.ok fresh, { scene.write [⟨.info, .queue,
      Text.ofString "Starting SQSPoller for queue " ++ p.source.name ++ Text.ofString "..."⟩] with
        polling := true }) := rfl

section

variable [Json.Limits]

/-- The calls bring what is in hand to its end: a batch that was received is processed, and what did
not fail of a batch that was processed is handed over. -/
def Settles (p : Poller σ) (services : Services σ) : Phase → List Call → Prop
  | .holding batch, calls => ∃ entries failed work more, calls = work ++ more ∧
      p.pipeline.IsLedger services entries batch.messages work ∧
      failed.Perm (Pipeline.failedIds entries) ∧ HandsOver p.source.url batch failed more
  | .deleting batch failed, calls => HandsOver p.source.url batch failed calls
  | _, calls => handedOver calls = []

/-- What is left of a run does not ask for messages, brings what is in hand to its end, and returns.
Only two batches end the run with a fault: one that the pipeline gives up on, before anything of it
is pulled, and one of whose requests meets an order to end the program, with that order. -/
def WindsUp (p : Poller σ) (services : Services σ) (phase : Phase) (s : Scene (Recorded σ))
    (rest : Except Fault Progress × Scene (Recorded σ)) : Prop :=
  ∃ new, rest.2.calls = s.calls ++ new ∧ (∀ call ∈ new, call.isReceive = false) ∧
    (p.Settles services phase new ∧ Returns rest.1 ∨
      ∃ batch fault, phase = .holding batch ∧ rest.1 = .error fault ∧
        (p.pipeline.GivesUpOn batch.messages ∧ new = [] ∨
          fault.isInterrupt = true ∧ p.pipeline.MeetsOrder services batch.messages fault new ∧
            ∀ call ∈ new, call.IsWork))

section Winding

variable {p : Poller σ} {services : Services σ} {s : Scene (Recorded σ)} {new : List Call}

theorem handsOver_of_steps {batch : Received} {failed : List Json} {n batches : Nat}
    (hcalls : ((p.recorded.steps services.recorded (n + 1)
      ⟨.deleting batch failed, batches⟩).runOn s).2.calls = s.calls ++ new)
    (hquiet : ∀ call ∈ new, call.isReceive = false) :
    HandsOver p.source.url batch failed new := by
  intro receipts hchosen
  obtain ⟨deletions, more, hmore, hall, hnothing⟩ :=
    p.steps_deleting services hchosen n batches s
  obtain rfl : new = deletions ++ more := List.append_cancel_left (hcalls.symm.trans hmore)
  refine ⟨deletions, more, rfl, hall, ?_⟩
  rwa [untilReceive_of_quiet fun call hcall => hquiet call (List.mem_append_right _ hcall)]
    at hnothing

theorem settles_of_steps_holding {batch : Received} {n batches : Nat} {result : BatchResult}
    (hprocess : ((p.pipeline.process services batch.messages).runOn s.erase).1 = .ok result)
    (hcalls : ((p.recorded.steps services.recorded (n + 2)
      ⟨.holding batch, batches⟩).runOn s).2.calls = s.calls ++ new)
    (hquiet : ∀ call ∈ new, call.isReceive = false) :
    p.Settles services (.holding batch) new := by
  have hrun := (p.pipeline.process_recorded services batch.messages s).1
  rw [hprocess] at hrun
  obtain ⟨entries, work, hwork, hledger, hids, hreport⟩ :=
    p.pipeline.process_ledger services (Prod.ext hrun rfl)
  have hheld := runOn_step_holding p.recorded services.recorded s batch batches
  rw [show p.recorded.pipeline = p.pipeline.recorded from rfl, hrun] at hheld
  rw [steps_of_ok rfl hheld] at hcalls
  obtain ⟨more, hmore⟩ := p.steps_grow services (n + 1)
    ⟨.deleting batch (result.report.getD []), batches⟩
    ((p.pipeline.recorded.process services.recorded batch.messages).runOn s).2
  obtain rfl : new = work ++ more := by
    rw [hwork, List.append_assoc] at hmore
    exact List.append_cancel_left (hcalls.symm.trans hmore.symm)
  refine ⟨entries, result.report.getD [], work, more, rfl, hledger, ?_, ?_⟩
  · rwa [hreport, Failures.getD_report]
  · exact handsOver_of_steps hmore.symm fun call hcall =>
      hquiet call (List.mem_append_right _ hcall)

/-- A batch that comes to no result ends the run: it is given up, or it meets an order. -/
theorem steps_of_process_error {batch : Received} {fault : Fault}
    (hprocess : ((p.pipeline.process services batch.messages).runOn s.erase).1 = .error fault)
    (n batches : Nat) : ∃ calls s', (p.recorded.steps services.recorded (n + 1)
        ⟨.holding batch, batches⟩).runOn s = (.error fault, s') ∧ s'.calls = s.calls ++ calls ∧
      (∀ call ∈ calls, call.IsWork) ∧ (p.pipeline.GivesUpOn batch.messages ∧ calls = [] ∨
        fault.isInterrupt = true ∧ p.pipeline.MeetsOrder services batch.messages fault calls) := by
  obtain ⟨s', hrun⟩ : ∃ s', (p.pipeline.recorded.process services.recorded batch.messages).runOn s =
      (.error fault, s') :=
    ⟨_, Prod.ext ((p.pipeline.process_recorded services batch.messages s).1.trans hprocess) rfl⟩
  have hheld := runOn_step_holding p.recorded services.recorded s batch batches
  rw [show p.recorded.pipeline = p.pipeline.recorded from rfl, hrun] at hheld
  obtain ⟨calls, tickets, hcalls, haccounts, hwhy⟩ := p.pipeline.process_unfinished services hrun
  refine ⟨calls, s', steps_of_error rfl hheld n, hcalls,
    fun call hcall => Pipeline.isWork_of_accounts haccounts hcall, hwhy.imp_left ?_⟩
  rintro ⟨⟨lines, hgives⟩, hnone⟩
  exact ⟨hgives.reason, hnone⟩

theorem windsUp_of_isStopped (hp : p.pipeline.NeverResumes) {n : Nat} (hn : 4 ≤ n)
    (progress : Progress) (hs : s.IsStopped) :
    p.WindsUp services progress.phase s
      ((p.recorded.steps services.recorded n progress).runOn s) := by
  obtain ⟨m, rfl⟩ : ∃ m, n = m + 2 := ⟨n - 2, by omega⟩
  obtain ⟨new, hcalls, hquiet⟩ := p.steps_quiet services hp (m + 2) progress hs
  have hleft : progress.phase.left ≤ m + 2 := by
    cases progress.phase <;> simp [Phase.left] <;> omega
  have hreturns := p.recorded.steps_stopped services.recorded
    (Pipeline.neverResumes_recorded hp) hleft hs
  have hidle : progress.phase.isIdle = true → handedOver new = [] := by
    intro hidle
    obtain ⟨more, hmore, hnothing⟩ := p.steps_idle services (m + 2) hidle s
    obtain rfl : new = more := List.append_cancel_left (hcalls.symm.trans hmore)
    rwa [untilReceive_of_quiet hquiet] at hnothing
  obtain ⟨phase, batches⟩ := progress
  cases phase with
  | holding batch =>
    cases hprocess : ((p.pipeline.process services batch.messages).runOn s.erase).1 with
    | error fault =>
      obtain ⟨calls, s', hsteps, hcalls', hwork, hwhy⟩ :=
        steps_of_process_error hprocess (m + 1) batches
      rw [hsteps]
      refine ⟨calls, hcalls', fun call hcall => (hwork call hcall).not_queue.1,
        Or.inr ⟨batch, fault, rfl, rfl, hwhy.imp_right fun ⟨horder, hmeets⟩ => ?_⟩⟩
      exact ⟨horder, hmeets, hwork⟩
    | ok result =>
      refine ⟨new, hcalls, hquiet,
        Or.inl ⟨settles_of_steps_holding hprocess hcalls hquiet, hreturns.resolve_right ?_⟩⟩
      rintro ⟨_, fault, ⟨⟩, hfault, -⟩
      have hrun := (p.pipeline.process_recorded services batch.messages s).1
      cases (hfault.symm.trans hrun).trans hprocess
  | deleting batch failed =>
    refine ⟨new, hcalls, hquiet,
      Or.inl ⟨handsOver_of_steps hcalls hquiet, hreturns.resolve_right ?_⟩⟩
    rintro ⟨_, _, ⟨⟩, -⟩
  | asking | counting | resting | ended =>
    refine ⟨new, hcalls, hquiet, Or.inl ⟨hidle rfl, hreturns.resolve_right ?_⟩⟩
    rintro ⟨_, _, ⟨⟩, -⟩

end Winding

/-! ## Runs -/

theorem heeds_calls {p : Poller σ} (services : Services σ) (hp : p.pipeline.NeverResumes) (n : Nat)
    (scene : Scene σ) : Heeds (p.calls services n scene) := by
  rw [calls, run, runOn_bind_of_ok (runOn_begin ..)]
  refine p.steps_heed services hp n fresh ?_ List.Pairwise.nil
  rintro ⟨call, hcall, -⟩
  cases hcall

theorem run_forgets (p : Poller σ) (services : Services σ) (n : Nat) (scene : Scene σ)
    (polling : Bool) :
    (p.run services n).runOn { scene with polling := polling } =
      (p.run services n).runOn scene := by
  rw [run, runOn_bind_of_ok (runOn_begin ..), runOn_bind_of_ok (runOn_begin ..)]
  rfl

/--
**A request to end is heeded, unless it comes before the poller has begun.**

Let a run have come as far as it may, and let someone ask for the end now, or have asked since it
began: in the answer to a call, or while a batch was processed. Then no more messages are asked for;
a batch in hand is processed, and what did not fail of it is handed over; and within four steps the
poller returns. Two batches end the run with a fault instead: one that the pipeline gives up on, of
which nothing is processed or handed over, and one that meets an order to end the program, of which
nothing is handed over. Within a step, too, messages are not asked for behind an answer that brought
the request. But a request that came before the poller began makes no difference.
-/
theorem stop_is_heeded {p : Poller σ} (services : Services σ) (hp : p.pipeline.NeverResumes) :
    (∀ (k n : Nat) (scene : Scene σ) (progress : Progress) (reached s : Scene (Recorded σ)),
      (p.recorded.run services.recorded k).runOn (scene.recording []) = (.ok progress, reached) →
      s = (stopPolling.runOn reached).2 ∨ s = reached ∧ reached.IsStopped → 4 ≤ n →
      p.WindsUp services progress.phase s
        ((p.recorded.steps services.recorded n progress).runOn s)) ∧
      (∀ n scene, Heeds (p.calls services n scene)) ∧
      ∀ n (scene : Scene σ) polling, (p.run services n).runOn { scene with polling := polling } =
        (p.run services n).runOn scene := by
  refine ⟨?_, heeds_calls services hp, p.run_forgets services⟩
  rintro k n scene progress reached s - hs hn
  have hstopped : s.IsStopped := by
    rcases hs with rfl | ⟨rfl, hstopped⟩
    · rfl
    · exact hstopped
  exact windsUp_of_isStopped hp hn progress hstopped

end

attribute [local instance] Platform.builtIn

/-- A poller on a shelf that takes any number of batches. -/
def endlessPoller : Poller Shelf := { shelfPoller with limit := none }

/-- The scene in which someone asks for the end while the queue answers with a batch. -/
def stoppingScene : Scene Shelf := .start (.empty [{ shelfReply with stop := true }])

/-- In that scene the poller asks no more, and of the batch it deletes the message that did not
fail. -/
theorem batch_in_hand_finished :
    ∃ progress reached, (endlessPoller.recorded.run Shelf.services.recorded 1).runOn
        (stoppingScene.recording []) = (.ok progress, reached) ∧ reached.IsStopped ∧
      endlessPoller.WindsUp Shelf.services progress.phase reached
        ((endlessPoller.recorded.steps Shelf.services.recorded 4 progress).runOn reached) ∧
      handedOver (endlessPoller.calls Shelf.services 5 stoppingScene) =
        [⟨.string "m1", .string "r1"⟩] := by
  have hok : ((endlessPoller.recorded.run Shelf.services.recorded 1).runOn
      (stoppingScene.recording [])).1.isOk = true := by cbv
  have hstopped : ((endlessPoller.recorded.run Shelf.services.recorded 1).runOn
      (stoppingScene.recording [])).2.polling = false := by cbv
  have hhanded : handedOver (endlessPoller.calls Shelf.services 5 stoppingScene) =
      [⟨.string "m1", .string "r1"⟩] := by cbv
  rcases hrun : (endlessPoller.recorded.run Shelf.services.recorded 1).runOn
    (stoppingScene.recording []) with ⟨result, reached⟩
  rw [hrun] at hok hstopped
  obtain ⟨progress, rfl⟩ := exists_of_isOk hok
  obtain ⟨hrest, -, -⟩ :=
    stop_is_heeded (p := endlessPoller) Shelf.services (Shelf.neverResumes none)
  exact ⟨progress, reached, rfl, hstopped, hrest 1 4 stoppingScene progress reached reached hrun
    (Or.inr ⟨rfl, hstopped⟩) (by decide), hhanded⟩

/-- Two letters: an integer of more digits than the reader takes, and a request. -/
def longLetters : List Letter :=
  [⟨"a", "ra", some (List.replicate 4301 (.char '1'))⟩, ⟨"b", "rb", some
    (Json.print (.object [("log_source_name", .string "ok"), ("time", .string "now")]))⟩]

/-- The reply that brings these letters, while someone asks for the end. -/
def longReply : QueueReply where
  answer := .ok (.object [("Messages", .array (longLetters.map Letter.received))])
  stop := true

theorem process_longLetters (s : Scene Shelf) :
    ((endlessPoller.pipeline.process Shelf.services (longLetters.map Letter.message)).runOn s).1 =
      .error (.json (.tooLong 4301)) := by
  have hread : Json.read (List.replicate 4301 (.char '1')) = .error (.tooLong 4301) :=
    Json.read_ones (by decide)
  have hverdict : Verdict.ofMessage (Shelf.pipeline none).routing
      ⟨.string "a", .string (List.replicate 4301 (.char '1'))⟩ =
        .error (.json (.tooLong 4301)) := by
    simp only [Verdict.ofMessage, Json.isNull, PullRequest.ofBody, PullRequest.ofText, hread]
    rfl
  exact congrArg Prod.fst (Pipeline.process_of_givesUp (Shelf.pipeline none) Shelf.services
    (.unjudged .nil hverdict) s)

/-- The scene in which someone has asked for the end already. -/
def askedScene : Scene Shelf :=
  ((stopPolling : Act Shelf Unit).runOn (.start (.empty [shelfReply]))).2

/-- The scene in which someone asks for the end while the queue answers with the two letters. -/
def longScene : Scene Shelf := .start (.empty [longReply])

/-- A request to end that comes before the poller begins is lost: messages are asked for all the
same. And one that comes with a batch in which an integer has too many digits ends in a fault, with
nothing of the batch handed over. -/
theorem request_to_end_lost :
    askedScene.IsStopped ∧
      (endlessPoller.calls Shelf.services 1 askedScene).any Call.isReceive = true ∧
      ((endlessPoller.run Shelf.services 9).runOn longScene).1 = .error (.json (.tooLong 4301)) ∧
        handedOver (endlessPoller.calls Shelf.services 9 longScene) = [] := by
  refine ⟨rfl, by cbv, ?_⟩
  have hbrings : longReply.Brings longLetters :=
    ⟨_, _, rfl, rfl, List.forall₂_map_right_iff.mpr
      (List.forall₂_same.mpr fun l _ => l.isReceived_received)⟩
  obtain ⟨s, hbegin, hpolling, hcalls, hreply⟩ :
      ∃ s, endlessPoller.recorded.begin.runOn (longScene.recording []) = (.ok fresh, s) ∧
        s.polling = true ∧ s.calls = [] ∧
        ((Shelf.services.queue (.receive endlessPoller.source.url QueueSource.callLimit
          endlessPoller.source.wait)).run s.outside.inner).1 = longReply :=
    ⟨_, rfl, rfl, rfl, rfl⟩
  obtain ⟨s', hasked, hcalls'⟩ := step_asking_of_brings hpolling rfl hreply hbrings
  have hfault : ((endlessPoller.pipeline.process Shelf.services
      (QueueSource.batchOfLetters longLetters).messages).runOn s'.erase).1 =
        .error (.json (.tooLong 4301)) := process_longLetters s'.erase
  obtain ⟨new, after, hsteps, hnew, -, hwhy⟩ := steps_of_process_error hfault 7 1
  obtain ⟨-, rfl⟩ := hwhy.resolve_right fun h => Bool.false_ne_true h.1
  have hrun : (endlessPoller.recorded.run Shelf.services.recorded 9).runOn
      (longScene.recording []) = (.error (.json (.tooLong 4301)), after) := by
    rw [run, runOn_bind_of_ok hbegin, fresh, steps_of_ok rfl hasked]
    exact hsteps
  have hsame := (endlessPoller.run_recorded Shelf.services 9 (longScene.recording [])).1
  rw [hrun] at hsame
  refine ⟨hsame.symm, ?_⟩
  rw [calls, hrun]
  show handedOver after.calls = []
  rw [hnew, hcalls', hcalls]
  rfl

end Poller

end LogHarvest
