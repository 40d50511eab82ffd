import LogHarvest.Proofs.Batch.Timetable
import LogHarvest.Proofs.Queue.Stopping
import LogHarvest.Proofs.Queue.Tolerance

/-!
# Consuming a queue

A poller that takes a number of batches asks for messages until it has had that many. A call that
fails or brings nothing makes a round of its own, in which it rests for a second; every batch makes
a round in which it is processed, deleted and followed by a look at the backlog (`Poller.Makes`).
What is asked for is the shortest beginning of what the queue has to give that holds so many batches
(`consumes_shortest_prefix`).
-/

namespace LogHarvest

variable {σ α : Type}

open Scene Act

/-! ## The shortest beginning -/

theorem countP_cons_toNat (kind : α → Bool) (a : α) (as : List α) :
    (a :: as).countP kind = as.countP kind + (kind a).toNat := by
  rw [List.countP_cons]
  cases kind a <;> rfl

/-- Of the beginnings of a list with at least `k` elements of a kind this is the shortest. -/
structure IsShortestWith (kind : α → Bool) (k : Nat) (front all : List α) : Prop where
  isPrefix : front <+: all
  enough : k ≤ front.countP kind
  least : ∀ other, other <+: all → k ≤ other.countP kind → front.length ≤ other.length

namespace IsShortestWith

variable {kind : α → Bool} {k : Nat} {a : α} {front all : List α}

theorem nil (kind : α → Bool) (all : List α) : IsShortestWith kind 0 [] all :=
  ⟨List.nil_prefix, Nat.zero_le _, fun _ _ _ => Nat.zero_le _⟩

/-- With one more to be found the next element belongs to the beginning in any case. -/
theorem cons (hk : 0 < k + (kind a).toNat) (h : IsShortestWith kind k front all) :
    IsShortestWith kind (k + (kind a).toNat) (a :: front) (a :: all) := by
  refine ⟨(List.prefix_cons_inj a).mpr h.isPrefix, ?_, ?_⟩
  · rw [countP_cons_toNat]
    exact Nat.add_le_add_right h.enough _
  · intro other hother hcount
    cases other with
    | nil =>
      rw [List.countP_nil] at hcount
      omega
    | cons b other =>
      obtain ⟨rfl, htail⟩ := List.cons_prefix_cons.mp hother
      rw [countP_cons_toNat] at hcount
      exact Nat.succ_le_succ (h.least other htail (Nat.le_of_add_le_add_right hcount))

end IsShortestWith

/-! ## What a batch leaves alone -/

namespace Pipeline

variable {p : Pipeline σ} {services : Services σ}

/-- Pulls do not ask for the end of polling. -/
def NeverStops (p : Pipeline σ) : Prop :=
  ∀ task s, s.polling = true → ((p.begin task).run s).2.polling = true

variable (services) in
theorem moves_polling (h : p.NeverStops) (n : Nat) (f : Floor) {s : Scene σ}
    (hs : s.polling = true) : ((p.moves services n f).run s).2.polling = true := by
  refine p.moves_keeps services (P := fun _ s => s.polling = true) ?_ n hs
  intro f i t s _ hs
  unfold Pipeline.move
  cases t.stage with
  | waiting => exact h t.task s hs
  | archiving data =>
    obtain ⟨outside, lines, hframe⟩ := p.settle_frame services data t.task.source s
    show ((p.settle services data t.task.source).run s).2.polling = true
    rw [hframe]
    exact hs
  | pulling answer | settled outcome | released outcome | done outcome | halted order => exact hs

variable [Json.Limits]

theorem process_polling (h : p.NeverStops) {messages : List Message} {s s' : Scene σ}
    {result : BatchResult} (hrun : (p.process services messages).runOn s = (.ok result, s'))
    (hs : s.polling = true) : s'.polling = true := by
  obtain ⟨verdicts, free, floor, after, -, -, hfloor, -, -, rfl⟩ := p.process_eq_ok services hrun
  have hpolling := moves_polling services h (dispatch verdicts free).todo
    (dispatch verdicts free) (s := s.write (opening verdicts)) hs
  rw [Pipeline.run] at hfloor
  rwa [hfloor] at hpolling

/-- A batch takes as long as its floor says. -/
theorem process_clock (h : p.KeepsClock) {messages : List Message} {s s' : Scene σ}
    {result : BatchResult} (hrun : (p.process services messages).runOn s = (.ok result, s')) :
    s'.clock = s.clock + result.floor.now := by
  obtain ⟨verdicts, free, floor, after, -, -, hfloor, -, rfl, rfl⟩ := p.process_eq_ok services hrun
  have hclock := p.moves_clock services h (dispatch verdicts free).todo
    (f := dispatch verdicts free) (s := s.write (opening verdicts)) rfl
  rw [Pipeline.run] at hfloor
  rwa [hfloor] at hclock

end Pipeline

/-! ### Pulls of a worker -/

/-- A pull of pages changes what is outside, the secrets that are kept and the lines. -/
theorem PageConnector.pull_keeps [Json.Limits] (services : Services σ) {I : Scene σ → Prop}
    (houtside : ∀ s outside, I s → I { s with outside := outside })
    (hkept : ∀ s kept, I s → I { s with kept := kept })
    (hwrite : ∀ s lines, I s → I (s.write lines)) (route : Route) :
    Leads I (pull services route) (fun _ => I) I := by
  have hnote : ∀ level topic text, Leads I (Act.note level topic text) (fun _ => I) I :=
    fun _ _ _ => .write fun s hs => hwrite s _ hs
  have hdemand : ∀ {α : Type} (question : StateM σ (Except Fault α)),
      Leads I (Act.demand question) (fun _ => I) I :=
    fun _ => .demand (fun s _ hs _ => houtside s _ hs) fun s hs => houtside s _ hs
  have hget : ∀ arn, Leads I (Vault.get services arn) (fun _ => I) I := by
    intro arn s hs
    rw [Vault.get, runOn_bind_of_ok (runOn_get s)]
    cases s.kept.lookup arn with
    | some secret => exact Leads.keep_pure secret s hs
    | none =>
      exact ((hnote _ _ _).bind fun _ => (hdemand _).bind fun answer =>
        (Leads.keep_lift _).bind fun secret =>
          (Leads.modify fun s hs => hkept s _ hs).bind fun _ => Leads.keep_pure _) s hs
  unfold pull
  cases given? route "url" with
  | none => exact Leads.keep_throw _
  | some url =>
    have hparams : Leads I (params services route) (fun _ => I) I := by
      unfold params
      split
      · exact Leads.keep_pure _
      · exact (Leads.ask fun s hs => houtside s _ hs).bind fun now =>
          (Leads.keep_lift _).bind fun start => Leads.keep_pure _
    have hprepare : Leads I (prepare services url route) (fun _ => I) I :=
      (hget _).bind fun secret => hparams.bind fun params => Leads.keep_pure _
    refine hprepare.bind fun request => (hdemand _).bind fun page =>
      (Leads.keep_lift _).bind fun body => ?_
    split
    · exact (Leads.write fun s hs => hwrite s _ hs).bind fun _ => Leads.keep_pure _
    · exact Leads.keep_pure _

theorem Shelf.run_begin (cap : Option Int) (task : Task) (s : Scene Shelf) :
    (((pipeline cap).begin task).run s).2 = s := by
  unfold Pipeline.begin
  cases hfind : (pipeline cap).connectors.find task.route.type with
  | error fault => rfl
  | ok connector =>
    rw [Shelf.eq_connector hfind]
    rfl

theorem Shelf.keepsClock (cap : Option Int) : (pipeline cap).KeepsClock := fun task s => by
  rw [Shelf.run_begin]

theorem Shelf.neverStops (cap : Option Int) : (pipeline cap).NeverStops := fun task s hs => by
  rwa [Shelf.run_begin]

namespace Worker

variable [Platform] {p : Pipeline σ} {services : Services σ}
  (h : p.connectors = connectors services)

include h

theorem begin_keeps {I : Scene σ → Prop}
    (houtside : ∀ s outside, I s → I { s with outside := outside })
    (hkept : ∀ s kept, I s → I { s with kept := kept })
    (hwrite : ∀ s lines, I s → I (s.write lines)) (task : Task) {s : Scene σ} (hs : I s) :
    I ((p.begin task).run s).2 := by
  unfold Pipeline.begin
  cases hfind : p.connectors.find task.route.type with
  | error fault => exact hs
  | ok connector =>
    rw [eq_connector h hfind]
    exact (PageConnector.pull_keeps services houtside hkept hwrite task.route).after hs

/-- The connectors of a worker leave the clock alone. -/
theorem keepsClock : p.KeepsClock := fun task s =>
  begin_keeps h (I := fun s' => s'.clock = s.clock) (fun _ _ hs => hs) (fun _ _ hs => hs)
    (fun _ _ hs => hs) task rfl

/-- The connectors of a worker do not ask for the end of polling. -/
theorem neverStops : p.NeverStops := fun task _ hs =>
  begin_keeps h (I := fun s' => s'.polling = true) (fun _ _ hs => hs) (fun _ _ hs => hs)
    (fun _ _ hs => hs) task hs

end Worker

/-! ## Replies -/

/-- The batch that a reply brings, if it brings a message. -/
def QueueReply.batch? (reply : QueueReply) : Option Received :=
  (reply.answer.bind QueueSource.batchOf).toOption.filter fun batch => !batch.messages.isEmpty

/-- Whether a reply brings a batch. -/
def QueueReply.bringsBatch (reply : QueueReply) : Bool := reply.batch?.isSome

theorem QueueReply.batchOf_of_batch? {reply : QueueReply} {batch : Received}
    (h : reply.batch? = some batch) : reply.answer.bind QueueSource.batchOf = .ok batch := by
  obtain ⟨hsome, -⟩ := Option.filter_eq_some_iff.mp h
  cases hanswer : reply.answer.bind QueueSource.batchOf with
  | error fault =>
    rw [hanswer] at hsome
    cases hsome
  | ok batch' =>
    rw [hanswer] at hsome
    cases hsome
    rfl

theorem QueueReply.nonempty_of_batch? {reply : QueueReply} {batch : Received}
    (h : reply.batch? = some batch) : (!batch.messages.isEmpty) = true :=
  (Option.filter_eq_some_iff.mp h).2

/-- The reply to a call of the queue. -/
def Call.reply? : Call → Option QueueReply
  | queue _ reply => some reply
  | _ => none

/-- The replies to the calls for messages. -/
def received (calls : List Call) : List QueueReply := calls.filterMap fun
  | .queue (.receive ..) reply => some reply
  | _ => none

theorem received_append (calls more : List Call) :
    received (calls ++ more) = received calls ++ received more := List.filterMap_append

theorem received_of_quiet {calls : List Call} (h : ∀ call ∈ calls, call.isReceive = false) :
    received calls = [] := by
  refine List.filterMap_eq_nil_iff.mpr fun call hcall => ?_
  have hquiet := h call hcall
  unfold Call.isReceive at hquiet
  split <;> first | rfl | cases hquiet

theorem received_prefix {calls more : List Call} (h : calls <+: more) :
    received calls <+: received more := h.filterMap _

/-- The replies that were seen are those that were due, as far as both go. -/
def InTurn (seen due : List QueueReply) : Prop := seen <+: due ∨ due <+: seen

theorem InTurn.head_eq {seen front rest : List QueueReply} {reply reply' : QueueReply}
    (h : InTurn seen (front ++ reply' :: rest)) (hseen : front ++ [reply] <+: seen) :
    reply = reply' := by
  rcases h with h | h
  · have hboth := (List.prefix_append_right_inj front).mp (hseen.trans h)
    exact (List.cons_prefix_cons.mp hboth).1
  · have hdue : front ++ [reply'] <+: seen :=
      ((List.prefix_append_right_inj front).mpr (List.prefix_append [reply'] rest)).trans h
    have hboth := List.prefix_of_prefix_length_le hseen hdue (by simp)
    exact (List.cons_prefix_cons.mp ((List.prefix_append_right_inj front).mp hboth)).1

/-! ## Deletions -/

/-- The calls delete what is left of a batch without what failed, ten messages at a time. If the ids
cannot be told apart there is no call. -/
def QueueSource.Clears (q : QueueSource) (batch : Received) (failed : List Json)
    (calls : List Call) : Prop :=
  match toDelete batch.receipts failed with
  | .ok receipts => List.Forall₂ (Deletes q.url) (groups receipts) calls
  | .error _ => calls = []

theorem QueueSource.Clears.not_receive {q : QueueSource} {batch : Received}
    {failed : List Json} {calls : List Call} (h : q.Clears batch failed calls) :
    ∀ call ∈ calls, call.isReceive = false := by
  unfold Clears at h
  split at h
  · exact not_receive_of_deletes h
  · subst h
    simp

theorem QueueSource.acknowledge_clears (services : Services σ) (q : QueueSource)
    (batch : Received) (failed : List Json) (s : Scene (Recorded σ)) :
    ∃ deletions, ((q.acknowledge services.recorded batch failed).runOn s).2.calls =
      s.calls ++ deletions ∧ q.Clears batch failed deletions := by
  cases hreceipts : toDelete batch.receipts failed with
  | error fault =>
    rw [acknowledge, hreceipts, runOn_bind_of_error (runOn_liftM_error ..)]
    exact ⟨[], (List.append_nil _).symm, by rw [Clears, hreceipts]⟩
  | ok receipts =>
    obtain ⟨deletions, hcalls, hall⟩ := acknowledge_calls_of_ok services q s hreceipts
    exact ⟨deletions, hcalls, by rwa [Clears, hreceipts]⟩

/-! ## Rounds -/

/-- A round of a poller, with the reply to its call for messages: it rests, or it has a batch
processed. -/
inductive Round
  | idle (reply : QueueReply)
  | busy (reply : QueueReply) (batch : Received) (result : BatchResult)

namespace Round

/-- The reply to the call for messages. -/
def reply : Round → QueueReply
  | idle reply => reply
  | busy reply _ _ => reply

/-- How many seconds the round takes. -/
def seconds : Round → Nat
  | idle _ => 1
  | busy _ _ result => result.floor.now

end Round

/-- Polling goes on, unless someone asked for the end while the queue answered. -/
def Scene.GoesOn (s : Scene (Recorded σ)) : Prop :=
  (∃ call ∈ s.calls, call.stops = true) ∨ s.polling = true

namespace Poller

/-! ### What calls of the queue keep -/

theorem keeps_clock (services : Services σ) (c : Nat) :
    QueueSource.Keeps services fun s => s.clock = c where
  write _ _ hs := hs
  call call s hs := by
    have hclock : ((callQueue services call).runOn s).2.clock = c := by
      rw [runOn_callQueue services call s rfl]
      split <;> exact hs
    exact ⟨fun _ _ => hclock, fun _ _ => hclock⟩

theorem polling_callQueue {services : Services σ} {call : QueueCall} {s : Scene σ}
    (h : ((services.queue call).run s.outside).1.stop = false) :
    ((callQueue services call).runOn s).2.polling = s.polling := by
  rcases hasked : (services.queue call).run s.outside with ⟨reply, outside⟩
  have hstop : reply.stop = false := by rwa [hasked] at h
  rw [runOn_callQueue services call s hasked, if_neg (by simp [hstop])]

theorem goesOn_callQueue (services : Services σ) (call : QueueCall) {s : Scene (Recorded σ)}
    (hs : s.GoesOn) : ((callQueue services.recorded call).runOn s).2.GoesOn := by
  obtain ⟨-, hcalls⟩ :=
    callQueue_of_reply (rfl : ((services.queue call).run s.outside.inner).1 = _)
  rw [Scene.GoesOn, hcalls]
  rcases hs with ⟨earlier, hearlier, hstop⟩ | hpolling
  · exact Or.inl ⟨earlier, List.mem_append_left _ hearlier, hstop⟩
  · cases hstop : ((services.queue call).run s.outside.inner).1.stop with
    | true => exact Or.inl ⟨_, List.mem_append_right _ (List.mem_singleton_self _), hstop⟩
    | false => exact Or.inr ((polling_callQueue hstop).trans hpolling)

theorem keeps_goesOn (services : Services σ) :
    QueueSource.Keeps services.recorded Scene.GoesOn where
  write _ _ hs := hs
  call call _ hs := ⟨fun _ _ => goesOn_callQueue services call hs,
    fun _ _ => goesOn_callQueue services call hs⟩

/-- Polling goes on behind a call for messages and a rest. -/
theorem goesOn_idle {p : Poller σ} {services : Services σ} {s s₁ : Scene (Recorded σ)}
    {batch? : Option Received}
    (hasked : (tolerate (p.source.receive services.recorded) "pull failed").runOn s =
      (.ok batch?, s₁)) (hs : s.GoesOn) : (s₁.pass services.recorded 1).GoesOn := by
  have hkept : s₁.GoesOn := ((keeps_goesOn services).tolerate
    ((keeps_goesOn services).receive p.source) _).of_runOn hs hasked
  exact hkept

/-! ### What a round is -/

section Makes

variable (p : Poller σ) (services : Services σ)

/-- A call for messages, with its reply. -/
def asks (reply : QueueReply) : Call :=
  .queue (.receive p.source.url QueueSource.callLimit p.source.wait) reply

variable [Json.Limits]

/-- The round leads from the first scene to the second, with these calls. After a call for messages
that fails or brings none there is no other call, and the poller rests for a second. A batch is
processed once; then what its report leaves is deleted, ten at a time; then the backlog is looked at
once. -/
inductive Makes : Round → Scene (Recorded σ) → Scene (Recorded σ) → Prop
  | idle {reply : QueueReply} {s s' : Scene (Recorded σ)} (hreply : reply.batch? = none)
      (hcalls : s'.calls = s.calls ++ [p.asks reply]) (hclock : s'.clock = s.clock + 1) :
      Makes (.idle reply) s s'
  | busy {reply backlog : QueueReply} {batch : Received} {result : BatchResult}
      {work deletions : List Call} {s s₁ s₂ s' : Scene (Recorded σ)}
      (hreply : reply.batch? = some batch) (hasked : s₁.calls = s.calls ++ [p.asks reply])
      (hprocessed : (p.pipeline.recorded.process services.recorded batch.messages).runOn s₁ =
        (.ok result, s₂))
      (hwork : s₂.calls = s₁.calls ++ work)
      (hdeleted : p.source.Clears batch (result.report.getD []) deletions)
      (hcalls : s'.calls = s.calls ++ p.asks reply ::
        (work ++ (deletions ++ [.queue (.countBacklog p.source.url) backlog])))
      (hclock : s'.clock = s.clock + result.floor.now) : Makes (.busy reply batch result) s s'

/-- The rounds lead from the first scene to the second, one behind the other. -/
inductive MakesAll : List Round → Scene (Recorded σ) → Scene (Recorded σ) → Prop
  | nil {s : Scene (Recorded σ)} : MakesAll [] s s
  | cons {round : Round} {rounds : List Round} {s s' s'' : Scene (Recorded σ)}
      (hround : p.Makes services round s s') (hmore : MakesAll rounds s' s'') :
      MakesAll (round :: rounds) s s''

variable {p services} {round : Round} {rounds : List Round} {s s' : Scene (Recorded σ)}

/-- A round asks for messages once. -/
theorem Makes.received_eq (h : p.Makes services round s s') :
    received s'.calls = received s.calls ++ [round.reply] := by
  cases h with
  | idle hreply hcalls =>
    rw [hcalls, received_append]
    rfl
  | @busy reply backlog batch result work deletions _ s₁ s₂ _ hreply hasked hprocessed hwork
      hdeleted hcalls =>
    obtain ⟨entries, calls, hledgered, hledger, -⟩ := p.pipeline.process_ledger services hprocessed
    obtain rfl : work = calls := List.append_cancel_left (hwork.symm.trans hledgered)
    have hquiet : ∀ call ∈ work ++ (deletions ++ [.queue (.countBacklog p.source.url) backlog]),
        call.isReceive = false := by
      intro call hcall
      rcases List.mem_append.mp hcall with hcall | hcall
      · exact (Pipeline.not_queue_of_ledger hledger hcall).1
      rcases List.mem_append.mp hcall with hcall | hcall
      · exact hdeleted.not_receive call hcall
      · rw [List.mem_singleton.mp hcall]
        rfl
    rw [hcalls, received_append, ← List.singleton_append, received_append, received_of_quiet hquiet,
      List.append_nil]
    rfl

theorem MakesAll.received_eq (h : p.MakesAll services rounds s s') :
    received s'.calls = received s.calls ++ rounds.map Round.reply := by
  induction h with
  | nil => exact (List.append_nil _).symm
  | cons hround _ ih =>
    rw [ih, hround.received_eq, List.append_assoc, List.map_cons, List.singleton_append]

/-- A round takes a second, or as long as its batch. -/
theorem Makes.clock_eq (h : p.Makes services round s s') :
    s'.clock = s.clock + round.seconds := by
  cases h with
  | idle hreply hcalls hclock => exact hclock
  | busy hreply hasked hprocessed hwork hdeleted hcalls hclock => exact hclock

theorem MakesAll.clock_eq (h : p.MakesAll services rounds s s') :
    s'.clock = s.clock + (rounds.map Round.seconds).sum := by
  induction h with
  | nil => rfl
  | cons hround _ ih =>
    rw [ih, hround.clock_eq, List.map_cons, List.sum_cons, Nat.add_assoc]

/-! ### Runs that make a round -/

variable {reply : QueueReply} {s₁ s₂ s₃ s₄ : Scene (Recorded σ)}

/-- Where messages are asked for in vain, the poller rests, and polling goes on. -/
theorem makes_idle {batch? : Option Received}
    (hasked : (tolerate (p.source.receive services.recorded) "pull failed").runOn s =
      (.ok batch?, s₁))
    (hcall : s₁.calls = s.calls ++ [p.asks reply]) (hreply : reply.batch? = none) :
    p.Makes services (.idle reply) s (s₁.pass services.recorded 1) := by
  have hclock : s₁.clock = s.clock := ((keeps_clock services.recorded s.clock).tolerate
    ((keeps_clock services.recorded s.clock).receive p.source) _).of_runOn rfl hasked
  exact .idle hreply hcall (congrArg (· + 1) hclock)

section Busy

variable {batch : Received} {result : BatchResult} {done? : Option Unit}
  (hasked : (p.source.receive services.recorded).runOn s = (.ok batch, s₁))
  (hprocessed : (p.pipeline.recorded.process services.recorded batch.messages).runOn s₁ =
    (.ok result, s₂))
  (hdeleted : (tolerate (p.source.acknowledge services.recorded batch
    (result.report.getD [])) "failed to ack messages").runOn s₂ = (.ok done?, s₃))
  (hcounted : (p.recorded.tellBacklog services.recorded).runOn s₃ = (.ok (), s₄))

include hasked hprocessed hdeleted hcounted

/-- What a batch goes through makes a round. -/
theorem makes_busy (hclock : p.pipeline.KeepsClock)
    (hcall : s₁.calls = s.calls ++ [p.asks reply]) (hreply : reply.batch? = some batch) :
    p.Makes services (.busy reply batch result) s s₄ := by
  obtain ⟨entries, work, hwork, -⟩ := p.pipeline.process_ledger services hprocessed
  obtain ⟨deletions, hdeletions, hrest⟩ :=
    p.source.acknowledge_clears services batch (result.report.getD []) s₂
  obtain ⟨htolerated, -⟩ := tolerate_calls
    (p.source.acknowledge services.recorded batch (result.report.getD []))
    "failed to ack messages" s₂
  obtain ⟨backlog, hcount⟩ := tellBacklog_calls p.recorded services s₃
  rw [hdeleted, hdeletions] at htolerated
  rw [hcounted] at hcount
  have hkeeps := keeps_clock services.recorded
  have h₁ : s₁.clock = s.clock := ((hkeeps s.clock).receive p.source).of_runOn rfl hasked
  have h₂ : s₂.clock = s₁.clock + result.floor.now := by
    obtain ⟨hsame, hscene⟩ := p.pipeline.process_recorded services batch.messages s₁
    rw [hprocessed] at hsame hscene
    exact Pipeline.process_clock hclock (Prod.ext hsame.symm hscene.symm)
  have h₃ : s₃.clock = s₂.clock := ((hkeeps s₂.clock).tolerate
    ((hkeeps s₂.clock).acknowledge p.source batch (result.report.getD [])) _).of_runOn rfl hdeleted
  have h₄ : s₄.clock = s₃.clock := ((hkeeps s₃.clock).tellBacklog p.recorded).of_runOn rfl hcounted
  have hcalls : s₄.calls = s.calls ++ p.asks reply ::
      (work ++ (deletions ++ [.queue (.countBacklog p.source.url) backlog])) := by
    rw [hcount, htolerated, hwork, hcall, recorded_source]
    simp
  exact .busy hreply hcall hprocessed hwork hrest hcalls (by rw [h₄, h₃, h₂, h₁])

/-- Polling goes on behind it. -/
theorem goesOn_busy (hstops : p.pipeline.NeverStops) (hs : s.GoesOn) : s₄.GoesOn := by
  have hkeeps := keeps_goesOn services
  have h₁ : s₁.GoesOn := (hkeeps.receive p.source).of_runOn hs hasked
  have h₂ : s₂.GoesOn := by
    obtain ⟨hsame, hscene⟩ := p.pipeline.process_recorded services batch.messages s₁
    rw [hprocessed] at hsame hscene
    obtain ⟨entries, work, hwork, -⟩ := p.pipeline.process_ledger services hprocessed
    rcases h₁ with ⟨call, hcall, hstop⟩ | hpolling
    · exact Or.inl ⟨call, hwork ▸ List.mem_append_left _ hcall, hstop⟩
    · exact Or.inr (Pipeline.process_polling hstops (Prod.ext hsame.symm hscene.symm) hpolling)
  have h₃ : s₃.GoesOn := (hkeeps.tolerate (hkeeps.acknowledge p.source batch
    (result.report.getD [])) _).of_runOn h₂ hdeleted
  exact (hkeeps.tellBacklog p.recorded).of_runOn h₃ hcounted

end Busy

end Makes

/-! ## Steps make rounds -/

/-- What the calls of a run must be like for the poller to go on: none of them brings a request to
end or fails with an order to end the program. -/
structure Undisturbed (calls : List Call) : Prop where
  unstopped : ∀ call ∈ calls, call.stops = false
  tolerable : AllTolerable calls

section Steps

variable [Json.Limits] {p : Poller σ} {services : Services σ} {s : Scene (Recorded σ)}
  {batches n : Nat}

/-- What a step puts on record stays there. -/
theorem mem_calls_of_step {progress : Progress} (hended : hasEnded progress = false) {call : Call}
    (h : call ∈ ((p.recorded.step services.recorded progress).runOn s).2.calls) :
    call ∈ ((p.recorded.steps services.recorded (n + 1) progress).runOn s).2.calls :=
  (p.step_grows_steps services hended s (p.steps_grow services n)).subset h

theorem step_asking_of_asked {batch? : Option Received} {s₁ : Scene (Recorded σ)}
    (hpolling : s.polling = true) (hsated : p.isSated batches = false)
    (hasked : (tolerate (p.source.receive services.recorded) "pull failed").runOn s =
      (.ok batch?, s₁)) :
    (p.recorded.step services.recorded ⟨.asking, batches⟩).runOn s =
      (.ok (match batch?.filter fun batch => !batch.messages.isEmpty with
        | none => ⟨.resting, batches⟩
        | some batch => ⟨.holding batch, batches + 1⟩), s₁) := by
  have hgoes : (!s.polling || p.recorded.isSated batches) = false := by
    rw [hpolling]
    exact hsated
  rw [runOn_step_asking, hgoes, if_neg (by simp), runOn_ask_eq, recorded_source, hasked]
  cases batch? with
  | none => rfl
  | some batch => cases hempty : batch.messages.isEmpty <;> simp [hempty, Option.filter]

theorem step_deleting_of_tolerable {batch : Received} {failed : List Json}
    (h : AllTolerable ((p.recorded.steps services.recorded (n + 1)
      ⟨.deleting batch failed, batches⟩).runOn s).2.calls) :
    ∃ done? s', (tolerate (p.source.acknowledge services.recorded batch failed)
        "failed to ack messages").runOn s = (.ok done?, s') ∧
      (p.recorded.step services.recorded ⟨.deleting batch failed, batches⟩).runOn s =
        (.ok ⟨.counting, batches⟩, s') := by
  have hstep := runOn_step_deleting p.recorded services.recorded s batch failed batches
  obtain ⟨hcalls, -⟩ := tolerate_calls (p.source.acknowledge services.recorded batch failed)
    "failed to ack messages" s
  have htolerable : AllTolerable
      ((p.source.acknowledge services.recorded batch failed).runOn s).2.calls := by
    intro call reply hmem
    refine h call reply (mem_calls_of_step rfl ?_)
    rw [hstep]
    exact hcalls ▸ hmem
  have hacknowledged := tolerate_of_tolerable
    (QueueSource.tolerable_acknowledge services p.source htolerable) "failed to ack messages"
  rw [recorded_source, hacknowledged] at hstep
  exact ⟨_, _, Prod.ext hacknowledged rfl, hstep⟩

theorem step_counting_of_tolerable
    (h : AllTolerable ((p.recorded.steps services.recorded (n + 1)
      ⟨.counting, batches⟩).runOn s).2.calls) :
    ∃ s', (p.recorded.tellBacklog services.recorded).runOn s = (.ok (), s') ∧
      (p.recorded.step services.recorded ⟨.counting, batches⟩).runOn s =
        (.ok ⟨.asking, batches⟩, s') := by
  have hstep := runOn_step_counting p.recorded services.recorded s batches
  obtain ⟨reply, hbacklog, hcount⟩ := QueueSource.backlog_calls services p.source s
  have hcalls := calls_tellBacklog p.recorded services.recorded s
  have htold : ((p.recorded.tellBacklog services.recorded).runOn s).1 = .ok () := by
    refine tellBacklog_of_tolerable ?_
    rw [recorded_source, hbacklog]
    refine (h (.countBacklog p.source.url) reply (mem_calls_of_step rfl ?_)).bind
      QueueSource.tolerable_backlogOf
    rw [hstep, hcalls, recorded_source, hcount]
    exact List.mem_append_right _ (List.mem_singleton_self _)
  rw [htold] at hstep
  exact ⟨_, Prod.ext htold rfl, hstep⟩

/-- Every batch that the poller has in hand within so many steps comes to a result. -/
def ReturnsWithin (p : Poller σ) (services : Services σ) (n batches : Nat)
    (s : Scene (Recorded σ)) : Prop :=
  ∀ m ≤ n, ∀ batch had s', (p.recorded.steps services.recorded m ⟨.asking, batches⟩).runOn s =
      (.ok ⟨.holding batch, had⟩, s') →
    ∃ result s'', (p.pipeline.recorded.process services.recorded batch.messages).runOn s' =
      (.ok result, s'')

theorem ReturnsWithin.later {k had : Nat} {s' : Scene (Recorded σ)}
    (h : p.ReturnsWithin services (n + k) batches s)
    (hsteps : ∀ m, (p.recorded.steps services.recorded (m + k) ⟨.asking, batches⟩).runOn s =
      (p.recorded.steps services.recorded m ⟨.asking, had⟩).runOn s') :
    p.ReturnsWithin services n had s' := by
  intro m hm batch had' s'' hholding
  exact h (m + k) (by omega) batch had' s'' ((hsteps m).trans hholding)

section Round

variable {reply : QueueReply}
  (hresult : ((p.source.receive services.recorded).runOn s).1 =
    reply.answer.bind QueueSource.batchOf)
  (hcall : ((p.source.receive services.recorded).runOn s).2.calls = s.calls ++ [p.asks reply])
  (hpolling : s.polling = true) (hsated : p.isSated batches = false)

include hresult hcall hpolling hsated

/-- A reply that brings nothing makes a round in which the poller rests. -/
theorem exists_idle_round (hreply : reply.batch? = none) (htolerable : Tolerable reply.answer) :
    ∃ s', p.Makes services (.idle reply) s s' ∧ s'.GoesOn ∧
      ∀ m, (p.recorded.steps services.recorded (m + 2) ⟨.asking, batches⟩).runOn s =
        (p.recorded.steps services.recorded m ⟨.asking, batches⟩).runOn s' := by
  have htolerated : Tolerable ((p.source.receive services.recorded).runOn s).1 := by
    rw [hresult]
    exact htolerable.bind QueueSource.tolerable_batchOf
  have hasked := tolerate_of_tolerable htolerated "pull failed"
  obtain ⟨hcalls, -⟩ := tolerate_calls (p.source.receive services.recorded) "pull failed" s
  have hstep := step_asking_of_asked hpolling hsated (Prod.ext hasked rfl)
  have hnothing : (((p.source.receive services.recorded).runOn s).1.toOption.filter
      fun batch => !batch.messages.isEmpty) = none := by
    rw [hresult]
    exact hreply
  rw [hnothing] at hstep
  refine ⟨_, makes_idle (Prod.ext hasked rfl) (hcalls.trans hcall) hreply,
    goesOn_idle (Prod.ext hasked rfl) (Or.inr hpolling), fun m => ?_⟩
  rw [steps_of_ok rfl hstep, steps_of_ok rfl]
  rfl

/-- A reply that brings a batch makes a round for it. -/
theorem exists_busy_round (hclock : p.pipeline.KeepsClock) (hstops : p.pipeline.NeverStops)
    {batch : Received} (hreply : reply.batch? = some batch)
    (h : AllTolerable ((p.recorded.steps services.recorded (n + 4)
      ⟨.asking, batches⟩).runOn s).2.calls)
    (hreturns : p.ReturnsWithin services (n + 4) batches s) :
    ∃ result s', p.Makes services (.busy reply batch result) s s' ∧ s'.GoesOn ∧
      ∀ m, (p.recorded.steps services.recorded (m + 4) ⟨.asking, batches⟩).runOn s =
        (p.recorded.steps services.recorded m ⟨.asking, batches + 1⟩).runOn s' := by
  have hasked : (p.source.receive services.recorded).runOn s =
      (.ok batch, ((p.source.receive services.recorded).runOn s).2) :=
    Prod.ext (hresult.trans (QueueReply.batchOf_of_batch? hreply)) rfl
  have hasking := step_asking_of_asked hpolling hsated (tolerate_of_ok hasked "pull failed")
  rw [Option.filter_some, if_pos (QueueReply.nonempty_of_batch? hreply)] at hasking
  obtain ⟨result, s₂, hprocessed⟩ := hreturns 1 (by omega) batch (batches + 1) _
    (steps_of_ok rfl hasking 0)
  have hholding := runOn_step_holding p.recorded services.recorded
    ((p.source.receive services.recorded).runOn s).2 batch (batches + 1)
  rw [show p.recorded.pipeline = p.pipeline.recorded from rfl, hprocessed] at hholding
  rw [steps_of_ok rfl hasking, steps_of_ok rfl hholding] at h
  -- whatever becomes of the deletions and of the backlog is put up with
  obtain ⟨done?, s₃, hdeleted, hdeleting⟩ := step_deleting_of_tolerable h
  rw [steps_of_ok rfl hdeleting] at h
  obtain ⟨s₄, hcounted, hcounting⟩ := step_counting_of_tolerable h
  refine ⟨result, s₄, makes_busy hasked hprocessed hdeleted hcounted hclock hcall hreply,
    goesOn_busy hasked hprocessed hdeleted hcounted hstops (Or.inr hpolling), fun m => ?_⟩
  rw [steps_of_ok rfl hasking, steps_of_ok rfl hholding, steps_of_ok rfl hdeleting,
    steps_of_ok rfl hcounting]

end Round

/-- The step lemma: where a poller asks for messages it makes a round, and then it asks again. -/
theorem exists_round (hclock : p.pipeline.KeepsClock) (hstops : p.pipeline.NeverStops)
    (hpolling : s.polling = true) (hsated : p.isSated batches = false)
    (h : AllTolerable
      ((p.recorded.steps services.recorded (n + 4) ⟨.asking, batches⟩).runOn s).2.calls)
    (hreturns : p.ReturnsWithin services (n + 4) batches s) :
    ∃ round s' m, p.Makes services round s s' ∧ s'.GoesOn ∧ n ≤ m ∧
      p.ReturnsWithin services m (batches + round.reply.bringsBatch.toNat) s' ∧
      (p.recorded.steps services.recorded (n + 4) ⟨.asking, batches⟩).runOn s =
        (p.recorded.steps services.recorded m
          ⟨.asking, batches + round.reply.bringsBatch.toNat⟩).runOn s' := by
  obtain ⟨reply, hresult, hcall⟩ := QueueSource.receive_calls services p.source s
  have hmem : p.asks reply ∈
      ((p.recorded.steps services.recorded (n + 4) ⟨.asking, batches⟩).runOn s).2.calls := by
    refine mem_calls_of_step rfl ?_
    have hgoes : (!s.polling || p.recorded.isSated batches) = false := by
      rw [hpolling]
      exact hsated
    rw [runOn_step_asking, hgoes, if_neg (by simp), calls_ask, hcall]
    exact List.mem_append_right _ (List.mem_singleton_self _)
  cases hreply : reply.batch? with
  | none =>
    obtain ⟨s', hmakes, hgoes, hsteps⟩ := exists_idle_round hresult hcall hpolling hsated hreply
      (h _ reply hmem)
    have hnone : (Round.idle reply).reply.bringsBatch.toNat = 0 := by
      rw [Round.reply, QueueReply.bringsBatch, hreply]
      rfl
    have hlater := ReturnsWithin.later (n := n + 2) (k := 2) hreturns hsteps
    exact ⟨_, s', n + 2, hmakes, hgoes, by omega, hnone ▸ hlater, hnone ▸ hsteps (n + 2)⟩
  | some batch =>
    obtain ⟨result, s', hmakes, hgoes, hsteps⟩ :=
      exists_busy_round hresult hcall hpolling hsated hclock hstops hreply h hreturns
    have hone : (Round.busy reply batch result).reply.bringsBatch.toNat = 1 := by
      rw [Round.reply, QueueReply.bringsBatch, hreply]
      rfl
    exact ⟨_, s', n, hmakes, hgoes, Nat.le_refl n, hone ▸ hreturns.later hsteps, hone ▸ hsteps n⟩

/-! ## Runs -/

/-- A poller that has had all its batches ends. -/
theorem steps_of_isSated (hsated : p.isSated batches = true) (n : Nat) :
    (p.recorded.steps services.recorded (n + 1) ⟨.asking, batches⟩).runOn s =
      (finish batches).runOn s := by
  have hends : (!s.polling || p.recorded.isSated batches) = true :=
    Bool.or_eq_true_iff.mpr (Or.inr hsated)
  have hstep := runOn_step_asking p.recorded services.recorded s batches
  rw [if_pos hends] at hstep
  rw [steps_of_ok rfl hstep]
  cases n <;> rfl

/-- With no batch left to take no round is made. -/
theorem exists_no_rounds {k : Int} (hlimit : p.limit = some k) (hk : k ≤ batches) (hn : 1 ≤ n)
    (replies : List QueueReply) :
    ∃ rounds reached,
      IsShortestWith QueueReply.bringsBatch (k - batches).toNat (rounds.map Round.reply) replies ∧
      p.MakesAll services rounds s reached ∧
      (p.recorded.steps services.recorded n ⟨.asking, batches⟩).runOn s =
        (finish (batches + (k - batches).toNat)).runOn reached := by
  have hsated : p.isSated batches = true := by simp [isSated, hlimit, hk]
  have hnone : (k - batches).toNat = 0 := by omega
  obtain ⟨m, rfl⟩ : ∃ m, n = m + 1 := ⟨n - 1, by omega⟩
  rw [hnone, Nat.add_zero]
  exact ⟨[], s, .nil _ _, .nil, steps_of_isSated hsated m⟩

/-- The run lemma: from where a poller asks for messages it makes the rounds for the shortest
beginning of the replies to come that holds the batches it still takes, and ends. -/
theorem exists_rounds {k : Int} (hlimit : p.limit = some k) (hclock : p.pipeline.KeepsClock)
    (hstops : p.pipeline.NeverStops) {replies : List QueueReply}
    (hn : 4 * replies.length + 1 ≤ n) (hpolling : s.polling = true)
    (henough : k ≤ batches + replies.countP QueueReply.bringsBatch)
    (h : Undisturbed
      ((p.recorded.steps services.recorded n ⟨.asking, batches⟩).runOn s).2.calls)
    (hreturns : p.ReturnsWithin services n batches s)
    (hturn : InTurn
      (received ((p.recorded.steps services.recorded n ⟨.asking, batches⟩).runOn s).2.calls)
      (received s.calls ++ replies)) :
    ∃ rounds reached,
      IsShortestWith QueueReply.bringsBatch (k - batches).toNat (rounds.map Round.reply) replies ∧
      p.MakesAll services rounds s reached ∧
      (p.recorded.steps services.recorded n ⟨.asking, batches⟩).runOn s =
        (finish (batches + (k - batches).toNat)).runOn reached := by
  induction replies generalizing n batches s with
  | nil =>
    rw [List.countP_nil] at henough
    exact exists_no_rounds hlimit (by omega) (by omega) []
  | cons reply rest ih =>
    by_cases hk : k ≤ batches
    · exact exists_no_rounds hlimit hk (by omega) (reply :: rest)
    · have hsated : p.isSated batches = false := by simp [isSated, hlimit, hk]
      rw [List.length_cons] at hn
      obtain ⟨n, rfl⟩ : ∃ n', n = n' + 4 := ⟨n - 4, by omega⟩
      obtain ⟨round, s', m, hround, hgoes, hm, hlater, hsteps⟩ :=
        exists_round hclock hstops hpolling hsated h.tolerable hreturns
      rw [hsteps] at h hturn ⊢
      have hgrown := p.steps_grow services m ⟨.asking, batches + round.reply.bringsBatch.toNat⟩ s'
      have hpolling' : s'.polling = true := by
        refine hgoes.resolve_left ?_
        rintro ⟨call, hcall, hstop⟩
        exact Bool.false_ne_true ((h.unstopped call (hgrown.subset hcall)).symm.trans hstop)
      obtain rfl : round.reply = reply := by
        refine hturn.head_eq ?_
        rw [← hround.received_eq]
        exact received_prefix hgrown
      have hone : round.reply.bringsBatch.toNat ≤ 1 := Bool.toNat_le _
      rw [countP_cons_toNat] at henough
      obtain ⟨rounds, reached, hshortest, hrounds, hrest⟩ := ih (by omega) hpolling' (by omega) h
        hlater (by
          rw [hround.received_eq, List.append_assoc]
          exact hturn)
      have hleft : (k - batches).toNat =
          (k - (batches + round.reply.bringsBatch.toNat : Nat)).toNat +
            round.reply.bringsBatch.toNat := by omega
      refine ⟨round :: rounds, reached, ?_, .cons hround hrounds, ?_⟩
      · rw [hleft]
        exact hshortest.cons (by omega)
      · rw [hrest, hleft]
        congr 2
        omega

end Steps

section

variable [Json.Limits]

/-- What a run comes to that takes `k` batches. -/
structure Consumes (p : Poller σ) (services : Services σ) (k : Int) (replies : List QueueReply)
    (n : Nat) (scene : Scene σ) (rounds : List Round) (reached : Scene (Recorded σ)) : Prop where
  shortest : IsShortestWith QueueReply.bringsBatch k.toNat (rounds.map Round.reply) replies
  pulls : received (p.calls services n scene) = rounds.map Round.reply
  makes : p.MakesAll services rounds ((p.begin.runOn scene).2.recording []) reached
  calls : p.calls services n scene = reached.calls
  ends : (p.run services n).runOn scene = (finish k.toNat).runOn reached.erase
  returns : ((p.run services n).runOn scene).1 = .ok ⟨.ended, k.toNat⟩
  clock : ((p.run services n).runOn scene).2.clock =
    scene.clock + (rounds.map Round.seconds).sum
  none : k ≤ 0 → p.calls services n scene = []

/-- Every batch that the poller has in hand within so many steps of its run comes to a result. -/
def BatchesReturn (p : Poller σ) (services : Services σ) (n : Nat) (scene : Scene σ) : Prop :=
  ∀ m ≤ n, ∀ batch had s, (p.run services m).runOn scene = (.ok ⟨.holding batch, had⟩, s) →
    ∃ result s', (p.pipeline.process services batch.messages).runOn s = (.ok result, s')

theorem BatchesReturn.returnsWithin {p : Poller σ} {services : Services σ} {n : Nat}
    {scene : Scene σ} (h : p.BatchesReturn services n scene) :
    p.ReturnsWithin services n 0 ((p.begin.runOn scene).2.recording []) := by
  intro m hm batch had s' hholding
  have hrun : (p.recorded.run services.recorded m).runOn (scene.recording []) =
      (.ok ⟨.holding batch, had⟩, s') :=
    (runOn_bind_of_ok (runOn_begin p.recorded (scene.recording [])) _).trans hholding
  obtain ⟨hsame, hscene⟩ := p.run_recorded services m (scene.recording [])
  rw [hrun] at hsame hscene
  obtain ⟨result, _, hprocess⟩ := h m hm batch had s'.erase (Prod.ext hsame.symm hscene.symm)
  exact ⟨result, _, Prod.ext ((p.pipeline.process_recorded services batch.messages s').1.trans
    (congrArg Prod.fst hprocess)) rfl⟩

/--
**A poller consumes the shortest beginning that holds its batches.**

Let the queue answer the calls for messages with these replies, in which there are at least as many
batches as the poller takes; whatever becomes of deletions and of looks at the backlog, let nobody
ask for the end, and let each batch that comes be processed to a result. Then the poller asks for
exactly the shortest beginning of the replies with so many batches, for nothing at all if it takes
none, and returns. It makes one round for each reply, and the calls of its rounds are all that it
makes: after a failure or an empty reply it rests; a batch is processed once, then it is deleted
once without what its report lists, then the backlog is looked at once. The clock goes on by a
second for each rest and by the time that each batch takes.

Connectors leave the clock and the polling alone, as those of a worker do (`Worker.keepsClock`,
`Worker.neverStops`).
-/
theorem consumes_shortest_prefix {p : Poller σ} {services : Services σ} {k : Int}
    {replies : List QueueReply} {n : Nat} {scene : Scene σ} (hlimit : p.limit = some k)
    (henough : k ≤ replies.countP QueueReply.bringsBatch) (hn : 4 * replies.length + 1 ≤ n)
    (hclock : p.pipeline.KeepsClock) (hstops : p.pipeline.NeverStops)
    (hturn : InTurn (received (p.calls services n scene)) replies)
    (h : Undisturbed (p.calls services n scene)) (hreturns : p.BatchesReturn services n scene) :
    ∃ rounds reached, p.Consumes services k replies n scene rounds reached := by
  have hrun : (p.recorded.run services.recorded n).runOn (scene.recording []) =
      (p.recorded.steps services.recorded n ⟨.asking, 0⟩).runOn
        ((p.begin.runOn scene).2.recording []) :=
    runOn_bind_of_ok (runOn_begin p.recorded (scene.recording [])) _
  rw [calls, hrun] at hturn h
  obtain ⟨rounds, reached, hshortest, hmakes, hsteps⟩ :=
    exists_rounds hlimit hclock hstops hn rfl (by simpa using henough) h hreturns.returnsWithin
      hturn
  rw [Nat.cast_zero, Int.sub_zero] at hshortest
  rw [Nat.cast_zero, Int.sub_zero, Nat.zero_add] at hsteps
  have hcalls : p.calls services n scene = reached.calls := by
    rw [calls, hrun, hsteps]
    rfl
  have hends : (p.run services n).runOn scene = (finish k.toNat).runOn reached.erase := by
    obtain ⟨hresult, hscene⟩ := p.run_recorded services n (scene.recording [])
    rw [hrun, hsteps] at hresult hscene
    exact Prod.ext hresult.symm hscene.symm
  refine ⟨rounds, reached, hshortest, ?_, hmakes, hcalls, hends, by rw [hends]; rfl, ?_, ?_⟩
  · rw [hcalls, hmakes.received_eq]
    rfl
  · rw [hends]
    exact hmakes.clock_eq
  · intro hk
    have hlength := hshortest.least [] List.nil_prefix (Int.toNat_of_nonpos hk).le
    obtain rfl : rounds = [] := by simpa using hlength
    cases hmakes
    rw [hcalls]
    rfl

end

attribute [local instance] Platform.builtIn

/-- A call that fails. -/
def brokenReply : QueueReply := ⟨.error (.missingKey "QueueUrl"), false⟩

/-- A reply without messages. -/
def emptyReply : QueueReply := ⟨.ok (.object []), false⟩

/-- What the queue has to give to calls for messages. -/
def dueReplies : List QueueReply := [brokenReply, emptyReply, shelfReply, shelfReply]

/-- The scene in which the first three are given, and then deletions and looks at the backlog
fail. -/
def dueScene : Scene Shelf :=
  .start (.empty [brokenReply, emptyReply, shelfReply, brokenReply, brokenReply])

theorem replies_dueScene :
    (shelfPoller.calls Shelf.services 17 dueScene).filterMap Call.reply? =
      [brokenReply, emptyReply, shelfReply, brokenReply, brokenReply] := by
  cbv

theorem received_dueScene :
    received (shelfPoller.calls Shelf.services 17 dueScene) =
      [brokenReply, emptyReply, shelfReply] := by
  cbv

/-- Whether what a run has in hand comes to a result. -/
def returnsHere : Except Fault Progress × Scene Shelf → Bool
  | (.ok ⟨.holding batch, _⟩, s) =>
    ((shelfPoller.pipeline.process Shelf.services batch.messages).runOn s).1.isOk
  | _ => true

theorem batchesReturn_dueScene : shelfPoller.BatchesReturn Shelf.services 17 dueScene := by
  have hreturns : ((List.range 18).all fun m =>
      returnsHere ((shelfPoller.run Shelf.services m).runOn dueScene)) = true := by cbv
  intro m hm batch had s hholding
  have hhere := List.all_eq_true.mp hreturns m (List.mem_range.mpr (Nat.lt_succ_of_le hm))
  rw [hholding] at hhere
  obtain ⟨result, hresult⟩ := exists_of_isOk hhere
  exact ⟨result, _, Prod.ext hresult rfl⟩

theorem undisturbed_dueScene :
    Undisturbed (shelfPoller.calls Shelf.services 17 dueScene) := by
  have hreply : ∀ call reply,
      .queue call reply ∈ shelfPoller.calls Shelf.services 17 dueScene →
      reply = brokenReply ∨ reply = emptyReply ∨ reply = shelfReply := by
    intro call reply hmem
    have hin : reply ∈ (shelfPoller.calls Shelf.services 17 dueScene).filterMap Call.reply? :=
      List.mem_filterMap.mpr ⟨_, hmem, rfl⟩
    simpa [replies_dueScene, or_comm, or_assoc, or_left_comm] using hin
  refine ⟨?_, ?_⟩
  · intro call hmem
    cases call with
    | queue call reply => rcases hreply call reply hmem with rfl | rfl | rfl <;> rfl
    | _ => rfl
  · intro call reply hmem
    rcases hreply call reply hmem with rfl | rfl | rfl
    · exact tolerable_error rfl
    · exact tolerable_ok _
    · exact tolerable_ok _

/-- A failure and an empty reply are slept on, one batch is processed, and the next one is left. -/
theorem one_batch_consumed :
    ∃ rounds reached, shelfPoller.Consumes Shelf.services 1 dueReplies 17 dueScene rounds reached ∧
      rounds.map Round.reply = [brokenReply, emptyReply, shelfReply] ∧
      (rounds.map Round.seconds).sum = 3 := by
  have henough : (1 : Int) ≤ dueReplies.countP QueueReply.bringsBatch := by
    have hcount : dueReplies.countP QueueReply.bringsBatch = 2 := by cbv
    omega
  have hturn : InTurn (received (shelfPoller.calls Shelf.services 17 dueScene)) dueReplies := by
    rw [received_dueScene]
    exact Or.inl ⟨[shelfReply], rfl⟩
  obtain ⟨rounds, reached, h⟩ := consumes_shortest_prefix (p := shelfPoller) rfl henough
    (by decide) (Shelf.keepsClock none) (Shelf.neverStops none) hturn undisturbed_dueScene
    batchesReturn_dueScene
  refine ⟨rounds, reached, h, h.pulls.symm.trans received_dueScene, ?_⟩
  have hthree : ((shelfPoller.run Shelf.services 17).runOn dueScene).2.clock = 3 := by cbv
  have hstart : dueScene.clock = 0 := rfl
  have hclock := h.clock
  omega

end Poller

end LogHarvest
