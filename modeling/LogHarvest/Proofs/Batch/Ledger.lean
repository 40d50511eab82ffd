import LogHarvest.Proofs.Batch.Runs
import LogHarvest.Proofs.Record

/-!
# The ledger of a batch

Requests are moved side by side, so the calls of a batch come in any order. All the same each call
is made for one message, and which calls are made for a message depends on nothing but how its own
request fares.

* `Share`: the calls made so far for a request, by the stage that it has come to
* `moves_accounts`: the calls on record are the shares of all requests put together, whatever the
  order of the moves
* `process_ledger`: at the end each message has its fate and its calls, and the report lists those
  that failed

An order to end the program is no failure: where a pull or archiving meets one the request is
halted.
-/

namespace LogHarvest

variable {σ : Type}

/-- An identifier that the services may give out. -/
def Services.Gives (services : Services σ) (id : Text) : Prop :=
  ∃ outside, (services.freshId.run outside).1 = id

/-- How the services may answer to an object. -/
def Services.Takes (services : Services σ) (object : StoredObject)
    (answer : Except Fault Unit) : Prop :=
  ∃ outside, ((services.store object).run outside).1 = answer

/-- What a pull of the route may come to. -/
def Connector.Answers (c : Connector σ) (route : Route) (pull : Pull) : Prop :=
  ∃ scene, ((c.pull route).run scene).1 = pull

namespace Pipeline

variable (p : Pipeline σ) (services : Services σ)

/-! ## The calls of a request -/

/-- The pull of a task came to this answer and made these calls: none where no connector is
registered. -/
inductive Pulled (task : Task) : Except Fault Bytes → List Call → Prop
  | pulled {connector : Connector σ} {seconds : Nat} {answer : Except Fault Bytes}
      (h : p.connectors.find task.route.type = .ok connector)
      (hpull : connector.Answers task.route ⟨seconds, answer⟩) :
      Pulled task answer [.pull task.route ⟨seconds, answer⟩]
  | unregistered {fault : Fault} (h : p.connectors.find task.route.type = .error fault) :
      Pulled task (.error fault) []

/-- The object that the data of a source is stored as. -/
def objectOf (source id : Text) (body : Bytes) : StoredObject :=
  ⟨p.writer.bucket, ArchiveWriter.key source id, ArchiveWriter.encoding, body⟩

/-- Archiving the data of a source came to this outcome and made these calls. -/
inductive Archiving (source : Text) : Bytes → Outcome → List Call → Prop
  | nothing : Archiving source [] .noNewData []
  | uncompressed {data : Bytes} {fault : Fault} (key : Text) (hdata : data ≠ [])
      (hbody : p.writer.codec.compress data = .error fault) (hfault : fault.isInterrupt = false) :
      Archiving source data (.failed (.archive source key fault)) []
  | refused {data body : Bytes} {id : Text} {fault : Fault} (key : Text) (hdata : data ≠ [])
      (hbody : p.writer.codec.compress data = .ok body) (hid : services.Gives id)
      (hstore : services.Takes (p.objectOf source id body) (.error fault))
      (hfault : fault.isInterrupt = false) :
      Archiving source data (.failed (.archive source key fault))
        [.store (p.objectOf source id body) (.error fault)]
  | stored {data body : Bytes} {id : Text} (hdata : data ≠ [])
      (hbody : p.writer.codec.compress data = .ok body)
      (hid : services.Gives id) (hstore : services.Takes (p.objectOf source id body) (.ok ())) :
      Archiving source data (.archived data.length (ArchiveWriter.key source id))
        [.store (p.objectOf source id body) (.ok ())]

/-- Archiving the data of a source met this order and made these calls. -/
inductive Halting (source : Text) : Bytes → Fault → List Call → Prop
  | uncompressed {data : Bytes} {order : Fault} (hdata : data ≠ [])
      (hbody : p.writer.codec.compress data = .error order) (horder : order.isInterrupt = true) :
      Halting source data order []
  | refused {data body : Bytes} {id : Text} {order : Fault} (hdata : data ≠ [])
      (hbody : p.writer.codec.compress data = .ok body) (hid : services.Gives id)
      (hstore : services.Takes (p.objectOf source id body) (.error order))
      (horder : order.isInterrupt = true) :
      Halting source data order [.store (p.objectOf source id body) (.error order)]

/-- Archiving the data of a source is over. -/
inductive Settles (source : Text) (data : Bytes) : Stage → List Call → Prop
  | settled {outcome : Outcome} {calls : List Call}
      (h : p.Archiving services source data outcome calls) :
      Settles source data (.settled outcome) calls
  | halted {order : Fault} {calls : List Call} (h : p.Halting services source data order calls) :
      Settles source data (.halted order) calls

/-- A task came to this outcome and made these calls. -/
inductive Ended (task : Task) : Outcome → List Call → Prop
  | notPulled {fault : Fault} {calls : List Call} (h : p.Pulled task (.error fault) calls)
      (hfault : fault.isInterrupt = false) :
      Ended task (.failed (.connector task.source fault)) calls
  | pulled {data : Bytes} {outcome : Outcome} {calls more : List Call}
      (h : p.Pulled task (.ok data) calls)
      (hmore : p.Archiving services task.source data outcome more) :
      Ended task outcome (calls ++ more)

/-- A task met this order and made these calls. -/
inductive Halted (task : Task) : Fault → List Call → Prop
  | notPulled {order : Fault} {calls : List Call} (h : p.Pulled task (.error order) calls)
      (horder : order.isInterrupt = true) : Halted task order calls
  | pulled {data : Bytes} {order : Fault} {calls more : List Call}
      (h : p.Pulled task (.ok data) calls)
      (hmore : p.Halting services task.source data order more) : Halted task order (calls ++ more)

/-- The calls made so far for a task that has come to a stage. -/
inductive Share (task : Task) : Stage → List Call → Prop
  | waiting : Share task .waiting []
  | pulling {answer : Except Fault Bytes} {calls : List Call} (h : p.Pulled task answer calls) :
      Share task (.pulling answer) calls
  | archiving {data : Bytes} {calls : List Call} (h : p.Pulled task (.ok data) calls) :
      Share task (.archiving data) calls
  | settled {outcome : Outcome} {calls : List Call} (h : p.Ended services task outcome calls) :
      Share task (.settled outcome) calls
  | released {outcome : Outcome} {calls : List Call} (h : p.Ended services task outcome calls) :
      Share task (.released outcome) calls
  | done {outcome : Outcome} {calls : List Call} (h : p.Ended services task outcome calls) :
      Share task (.done outcome) calls
  | halted {order : Fault} {calls : List Call} (h : p.Halted services task order calls) :
      Share task (.halted order) calls

/-! ## What a move puts on record -/

theorem begin_pulled (task : Task) (s : Scene (Recorded σ)) :
    ∃ calls, ((p.recorded.begin task).run s).2.calls = s.calls ++ calls ∧
      p.Pulled task ((p.recorded.begin task).run s).1.answer calls := by
  unfold Pipeline.begin
  rw [find_recorded]
  cases hfind : p.connectors.find task.route.type with
  | ok connector => exact ⟨_, rfl, .pulled hfind ⟨s.erase, rfl⟩⟩
  | error fault => exact ⟨[], (List.append_nil _).symm, .unregistered hfind⟩

theorem isInterrupt_of_errorLine? {key : Text} {fault : Fault} {line : Line}
    (h : ArchiveWriter.errorLine? key fault = some line) : fault.isInterrupt = false := by
  unfold ArchiveWriter.errorLine? at h
  split at h
  · next hfamily => simp [Fault.isInterrupt, hfamily]
  · next hfamily => simp [Fault.isInterrupt, hfamily]
  · cases h

/-- What becomes of an attempt that failed. -/
theorem archiveAs_of_error {w : ArchiveWriter} {key : Text} {data : Bytes} {s s' : Scene σ}
    {fault : Fault} (h : (w.put services key data).runOn s = (.error fault, s')) (source : Text) :
    ∃ shown lines, Floor.afterArchive source ((w.archiveAs services source key data).runOn s).1 =
        Floor.afterFault fault (.archive source shown fault) ∧
      ((w.archiveAs services source key data).runOn s).2 = s'.write lines := by
  rw [ArchiveWriter.archiveAs, Act.runOn_bind, Act.runOn_attempt, h]
  cases hl : ArchiveWriter.errorLine? key fault with
  | none => exact ⟨Floor.noKey, [], by simp [hl, Floor.afterArchive], by simp [hl]⟩
  | some line =>
    have hfault := isInterrupt_of_errorLine? hl
    refine ⟨key, [line], ?_, by simp [hl]⟩
    simp [hl, Floor.afterArchive, Floor.afterFault, hfault, Except.map]

/-- A fault is an order or a failure. -/
theorem settles_of_fault {source : Text} {data : Bytes} {fault : Fault} {calls : List Call}
    {key : Text} (hfailed : fault.isInterrupt = false →
      p.Archiving services source data (.failed (.archive source key fault)) calls)
    (hhalted : fault.isInterrupt = true → p.Halting services source data fault calls) :
    p.Settles services source data (Floor.afterFault fault (.archive source key fault)) calls := by
  unfold Floor.afterFault
  split
  · next horder => exact .halted (hhalted horder)
  · next hfault => exact .settled (hfailed (by simpa using hfault))

theorem archiveAs_of_ok {w : ArchiveWriter} {key : Text} {data : Bytes} {s s' : Scene σ}
    (h : (w.put services key data).runOn s = (.ok (), s')) (source : Text) :
    (w.archiveAs services source key data).runOn s = (.ok (.archived data.length key), s') := by
  rw [ArchiveWriter.archiveAs, Act.runOn_bind, Act.runOn_attempt, h]
  rfl

theorem put_of_body {data body : Bytes} (hbody : p.writer.codec.compress data = .ok body)
    (source id : Text) (s : Scene (Recorded σ)) :
    ∃ answer s', (p.writer.put services.recorded (ArchiveWriter.key source id) data).runOn s =
      (answer, s') ∧
      services.Takes (p.objectOf source id body) answer ∧
      s'.calls = s.calls ++ [.store (p.objectOf source id body) answer] := by
  rw [ArchiveWriter.put, hbody, Act.runOn_bind_of_ok (Act.runOn_liftM_ok ..), Act.runOn_demand]
  exact ⟨_, _, rfl, ⟨s.outside.inner, rfl⟩, rfl⟩

theorem archiveAs_settles {data : Bytes} (hdata : data ≠ []) {id : Text} (hid : services.Gives id)
    (source : Text) (s : Scene (Recorded σ)) :
    ∃ calls,
      ((p.writer.archiveAs services.recorded source
        (ArchiveWriter.key source id) data).runOn s).2.calls =
        s.calls ++ calls ∧
      p.Settles services source data (Floor.afterArchive source
        ((p.writer.archiveAs services.recorded source (ArchiveWriter.key source id) data).runOn
          s).1) calls := by
  cases hbody : p.writer.codec.compress data with
  | error fault =>
    have hput : (p.writer.put services.recorded (ArchiveWriter.key source id) data).runOn s =
        (.error fault, s) := by
      rw [ArchiveWriter.put, hbody, Act.runOn_bind_of_error (Act.runOn_liftM_error ..)]
    obtain ⟨shown, lines, houtcome, hscene⟩ := archiveAs_of_error services.recorded hput source
    rw [houtcome, hscene]
    exact ⟨[], (List.append_nil _).symm, p.settles_of_fault services
      (.uncompressed shown hdata hbody) (.uncompressed hdata hbody)⟩
  | ok body =>
    obtain ⟨answer, s', hput, hstore, hcalls⟩ := p.put_of_body services hbody source id s
    cases answer with
    | error fault =>
      obtain ⟨shown, lines, houtcome, hscene⟩ := archiveAs_of_error services.recorded hput source
      rw [houtcome, hscene]
      exact ⟨_, hcalls, p.settles_of_fault services
        (.refused shown hdata hbody hid hstore) (.refused hdata hbody hid hstore)⟩
    | ok _ =>
      rw [archiveAs_of_ok services.recorded hput source]
      exact ⟨_, hcalls, .settled (.stored hdata hbody hid hstore)⟩

theorem settle_settles (data : Bytes) (source : Text) (s : Scene (Recorded σ)) :
    ∃ calls, ((p.recorded.settle services.recorded data source).run s).2.calls = s.calls ++ calls ∧
      p.Settles services source data
        ((p.recorded.settle services.recorded data source).run s).1 calls := by
  by_cases hdata : data = []
  · subst hdata
    exact ⟨[], (List.append_nil _).symm, .settled .nothing⟩
  · have hempty : data.isEmpty = false := by simpa using hdata
    -- lines are written and an identifier is asked for before the object is stored
    obtain ⟨id, hid, s', hs', hrun⟩ :
        ∃ id, services.Gives id ∧ ∃ s' : Scene (Recorded σ), s'.calls = s.calls ∧
        (p.writer.archive services.recorded data source).runOn s =
          (p.writer.archiveAs services.recorded source
            (ArchiveWriter.key source id) data).runOn s' := by
      simp only [ArchiveWriter.archive, hempty, ArchiveWriter.freshKey, Bool.false_eq_true,
        if_false, Act.runOn_bind, Act.runOn_note, Act.runOn_ask, Act.runOn_pure]
      refine ⟨_, ⟨s.outside.inner, rfl⟩, _, ?_, rfl⟩
      rfl
    show ∃ calls, ((p.writer.archive services.recorded data source).runOn s).2.calls = _ ∧
      p.Settles services source data (Floor.afterArchive source
        ((p.writer.archive services.recorded data source).runOn s).1) calls
    rw [hrun, ← hs']
    exact p.archiveAs_settles services hdata hid source s'

/-- An answer of a pull ends the request, or hands it on to be archived. -/
theorem share_afterPull {task : Task} {answer : Except Fault Bytes} {calls : List Call}
    (h : p.Pulled task answer calls) :
    p.Share services task (Floor.afterPull task.source answer) calls := by
  cases answer with
  | ok data => exact .archiving h
  | error fault =>
    show p.Share services task (Floor.afterFault fault (.connector task.source fault)) calls
    unfold Floor.afterFault
    split
    · next horder => exact .halted (.notPulled h horder)
    · next hfault => exact .settled (.notPulled h (by simpa using hfault))

theorem share_of_settles {task : Task} {data : Bytes} {stage : Stage} {calls more : List Call}
    (h : p.Pulled task (.ok data) calls) (hmore : p.Settles services task.source data stage more) :
    p.Share services task stage (calls ++ more) := by
  cases hmore with
  | settled harchiving => exact .settled (.pulled h harchiving)
  | halted hhalting => exact .halted (.pulled h hhalting)

/-- From one floor to the next a ticket goes on with new calls, and no other ticket changes. -/
def GoesOn (f f' : Floor) (t : Ticket) (new : List Call) : Prop :=
  ∃ before after t', f.tickets = before ++ t :: after ∧ f'.tickets = before ++ t' :: after ∧
    ∀ calls, p.Share services t.task t.stage calls →
      p.Share services t'.task t'.stage (calls ++ new)

theorem goesOn_of_modify {f f' : Floor} {i : Nat} {t : Ticket} {new : List Call}
    (ht : f.tickets[i]? = some t) (g : Ticket → Ticket) (hf' : f'.tickets = f.tickets.modify i g)
    (hshare : ∀ calls, p.Share services t.task t.stage calls →
      p.Share services (g t).task (g t).stage (calls ++ new)) :
    p.GoesOn services f f' t new := by
  obtain ⟨before, after, hts, hmod⟩ := Floor.exists_split_of_modify ht g
  exact ⟨before, after, g t, hts, hf'.trans hmod, hshare⟩

theorem goesOn_of_no_call {f f' : Floor} {i : Nat} {t : Ticket} (ht : f.tickets[i]? = some t)
    (g : Ticket → Ticket) (hf' : f'.tickets = f.tickets.modify i g)
    (hshare : ∀ calls, p.Share services t.task t.stage calls →
      p.Share services (g t).task (g t).stage calls) :
    p.GoesOn services f f' t [] := by
  refine p.goesOn_of_modify services ht g hf' fun calls h => ?_
  rw [List.append_nil]
  exact hshare calls h

/-- The step lemma: a move makes calls for the ticket that it moves, and for no other. -/
theorem move_goesOn {f : Floor} {i : Nat} {t : Ticket} (ht : f.tickets[i]? = some t)
    (s : Scene (Recorded σ)) :
    ∃ new, ((p.recorded.move services.recorded f i t).run s).2.calls = s.calls ++ new ∧
      p.GoesOn services f ((p.recorded.move services.recorded f i t).run s).1 t new := by
  unfold move
  cases hs : t.stage with
  | waiting =>
    obtain ⟨new, hcalls, hpulled⟩ := p.begin_pulled t.task s
    refine ⟨new, hcalls, p.goesOn_of_modify services ht _ rfl ?_⟩
    rw [hs]
    intro calls hshare
    cases hshare with
    | waiting => exact .pulling hpulled
  | pulling answer =>
    refine ⟨[], (List.append_nil _).symm, p.goesOn_of_no_call services ht _ rfl ?_⟩
    rw [hs]
    intro calls hshare
    cases hshare with
    | pulling hpulled => exact p.share_afterPull services hpulled
  | archiving data =>
    obtain ⟨new, hcalls, hsettles⟩ := p.settle_settles services data t.task.source s
    refine ⟨new, hcalls, p.goesOn_of_modify services ht _ rfl ?_⟩
    rw [hs]
    intro calls hshare
    cases hshare with
    | archiving hpulled => exact p.share_of_settles services hpulled hsettles
  | settled outcome =>
    refine ⟨[], (List.append_nil _).symm, p.goesOn_of_no_call services ht _ rfl ?_⟩
    rw [hs]
    intro calls hshare
    cases hshare with
    | settled hended => exact .released hended
  | released outcome =>
    refine ⟨[], (List.append_nil _).symm, p.goesOn_of_no_call services ht _ rfl ?_⟩
    rw [hs]
    intro calls hshare
    cases hshare with
    | released hended => exact .done hended
  | done _ | halted _ =>
    -- neither is moved any more
    exact ⟨[], (List.append_nil _).symm,
      p.goesOn_of_no_call services ht id (List.modify_id ..).symm fun _ h => h⟩

/-! ## The calls of a run -/

/-- The calls are the shares of the tickets put together. -/
def Accounts (tickets : List Ticket) (calls : List Call) : Prop :=
  ∃ rows : List (Ticket × List Call), rows.map (·.1) = tickets ∧
    (∀ r ∈ rows, p.Share services r.1.task r.1.stage r.2) ∧ calls.Perm (rows.flatMap (·.2))

theorem accounts_start (tasks : List Task) (permits : Option Nat) (refused : Failures) :
    p.Accounts services (Floor.start tasks permits refused).tickets [] := by
  refine ⟨(Floor.start tasks permits refused).tickets.map fun t => (t, []),
    by simp [Function.comp_def], ?_, by simp⟩
  simp only [Floor.start, List.map_map, List.mem_map]
  rintro r ⟨task, -, rfl⟩
  exact .waiting

theorem Accounts.goesOn {f f' : Floor} {t : Ticket} {calls new : List Call}
    (h : p.Accounts services f.tickets calls)
    (hgo : p.GoesOn services f f' t new) : p.Accounts services f'.tickets (calls ++ new) := by
  obtain ⟨before, after, t', hts, hts', hshare⟩ := hgo
  obtain ⟨rows, hrows, hall, hperm⟩ := h
  -- the rows are split where the tickets are
  rw [hts] at hrows
  obtain ⟨first, rest, rfl, rfl, hrest⟩ := List.map_eq_append_iff.mp hrows
  obtain ⟨row, second, rfl, rfl, rfl⟩ := List.map_eq_cons_iff.mp hrest
  refine ⟨first ++ (t', row.2 ++ new) :: second, by simp [hts'], ?_, ?_⟩
  · intro r hr
    rcases List.mem_append.mp hr with hr | hr
    · exact hall r (List.mem_append_left _ hr)
    · rcases List.mem_cons.mp hr with rfl | hr
      · exact hshare _ (hall row (by simp))
      · exact hall r (by simp [hr])
  · simp only [List.flatMap_append, List.flatMap_cons] at hperm ⊢
    -- the new calls come last on record and stand behind the older ones of their ticket
    calc calls ++ new
        |>.Perm (first.flatMap (·.2) ++ (row.2 ++ second.flatMap (·.2)) ++ new) :=
          hperm.append_right _
      _ |>.Perm (first.flatMap (·.2) ++ (row.2 ++ new ++ second.flatMap (·.2))) := by
          simp only [List.append_assoc]
          exact (List.perm_append_comm.append_left _).append_left _

/-- The run lemma: whatever the order of the moves, each ticket has its share. -/
theorem moves_accounts (n : Nat) (f : Floor) (s : Scene (Recorded σ)) {calls : List Call}
    (h : p.Accounts services f.tickets calls) :
    ∃ new, ((p.recorded.moves services.recorded n f).run s).2.calls = s.calls ++ new ∧
      p.Accounts services ((p.recorded.moves services.recorded n f).run s).1.tickets
        (calls ++ new) := by
  induction n generalizing f s calls with
  | zero => exact ⟨[], (List.append_nil _).symm, by rwa [List.append_nil]⟩
  | succ n ih =>
    cases hnext : f.next.bind fun i => f.tickets[i]?.map fun t => (i, t) with
    | none =>
      simp only [moves, hnext]
      exact ⟨[], (List.append_nil _).symm, by rwa [List.append_nil]⟩
    | some it =>
      obtain ⟨i, t⟩ := it
      obtain ⟨new, hcalls, hgo⟩ := p.move_goesOn services (isNext_of_bind hnext).1 s
      obtain ⟨more, hmore, haccounts⟩ := ih ((p.recorded.move services.recorded f i t).run s).1
        ((p.recorded.move services.recorded f i t).run s).2 (h.goesOn p services hgo)
      simp only [moves, hnext, StateT.run_bind]
      refine ⟨new ++ more, ?_, ?_⟩
      · rw [← List.append_assoc, ← hcalls]
        exact hmore
      · rw [← List.append_assoc]
        exact haccounts

/-- The calls of a batch that was dispatched are the shares of its tickets. -/
theorem run_dispatch_accounts {verdicts : List Verdict} {free : Option Nat}
    {s s' : Scene (Recorded σ)} {floor : Floor}
    (hrun : (p.recorded.run services.recorded (dispatch verdicts free)).run s = (floor, s')) :
    ∃ calls, s'.calls = s.calls ++ calls ∧ p.Accounts services floor.tickets calls := by
  obtain ⟨calls, hcalls, haccounts⟩ := p.moves_accounts services (dispatch verdicts free).todo _ s
    (p.accounts_start services (verdicts.filterMap Verdict.task?) free
      (verdicts.filterMap Verdict.failure?))
  rw [run, dispatch] at hrun
  rw [dispatch, hrun] at hcalls haccounts
  exact ⟨calls, hcalls, haccounts⟩

/-! ## Messages and their fates -/

/-- What the ledger says of a message. -/
structure Entry where
  message : Message
  outcome : Option Outcome
  calls : List Call

/-- Whether the message failed. -/
def Entry.hasFailed (e : Entry) : Bool := e.outcome.any Outcome.isFailed

/-- The ids of the messages that failed. -/
def failedIds (entries : List Entry) : List Json :=
  (entries.filter Entry.hasFailed).map (·.message.id)

theorem failedIds_cons (e : Entry) (entries : List Entry) :
    failedIds (e :: entries) =
      (if e.hasFailed then [e.message.id] else []) ++ failedIds entries := by
  cases h : e.hasFailed <;> simp [failedIds, h]

theorem map_id_recorded {t : Ticket} {outcome : Outcome} (h : t.stage = .done outcome) :
    t.recorded.map (·.id) = if outcome.isFailed then [t.task.id] else [] := by
  cases outcome <;> simp [Ticket.recorded, h, Floor.failureOf, Outcome.isFailed]

variable [Json.Limits]

/-- A message has this fate and made these calls: dropped without an outcome, refused, or ended as
its task did. -/
inductive Fate (m : Message) : Option Outcome → List Call → Prop
  | dropped (h : m.id.isNull = true) : Fate m none []
  | refused {failure : Failure} (h : Verdict.ofMessage p.routing m = .ok (.refused failure)) :
      Fate m (some (.failed failure.cause)) []
  | ended {task : Task} {outcome : Outcome} {calls : List Call}
      (h : Verdict.ofMessage p.routing m = .ok (.ready task))
      (hended : p.Ended services task outcome calls) :
      Fate m (some outcome) calls

/-- A request among the messages met the order, and its calls are among the given ones. -/
def MeetsOrder (messages : List Message) (order : Fault) (calls : List Call) : Prop :=
  ∃ m ∈ messages, ∃ task own, Verdict.ofMessage p.routing m = .ok (.ready task) ∧
    p.Halted services task order own ∧ own ⊆ calls

/-- The entries list each message once with its fate, and its calls are among the given ones. -/
structure IsLedger (entries : List Entry) (messages : List Message) (calls : List Call) : Prop where
  messages_eq : entries.map (·.message) = messages
  fate : ∀ e ∈ entries, p.Fate services e.message e.outcome e.calls
  calls_perm : calls.Perm (entries.flatMap (·.calls))

end Pipeline

namespace Pipeline

variable [Json.Limits] (p : Pipeline σ) (services : Services σ)

/-! ## The ledger is kept -/

theorem IsLedger.cons {entries : List Entry} {messages : List Message} {calls more : List Call}
    (h : p.IsLedger services entries messages more) {m : Message} {outcome : Option Outcome}
    (hm : p.Fate services m outcome calls) :
    p.IsLedger services (⟨m, outcome, calls⟩ :: entries) (m :: messages) (calls ++ more) where
  messages_eq := by simp [h.messages_eq]
  fate := by
    rintro e (_ | ⟨_, he⟩)
    · exact hm
    · exact h.fate e he
  calls_perm := by simpa using h.calls_perm.append_left calls

/-- The rows of the floor are handed out to the messages that are ready. -/
theorem exists_entries {messages : List Message} {verdicts : List Verdict}
    (h : Verdict.Judged p.routing messages verdicts) {rows : List (Ticket × List Call)}
    (htasks : rows.map (·.1.task) = verdicts.filterMap Verdict.task?)
    (hrows : ∀ r ∈ rows, ∃ outcome, r.1.stage = .done outcome ∧
      p.Ended services r.1.task outcome r.2) :
    ∃ entries, p.IsLedger services entries messages (rows.flatMap (·.2)) ∧
      ((verdicts.filterMap Verdict.failure?).map (·.id) ++
          (rows.flatMap (·.1.recorded)).map (·.id)).Perm
        (failedIds entries) := by
  induction h generalizing rows with
  | nil =>
    obtain rfl : rows = [] := by simpa using htasks
    exact ⟨[], ⟨rfl, by simp, .refl _⟩, .refl _⟩
  | @cons m verdict messages verdicts hm _ ih =>
    -- a row goes to this message only if it is ready; else the rows are all for the later ones
    have hgiven := Verdict.given_of_eq_ok hm
    cases verdict with
    | dropped body =>
      obtain ⟨entries, hledger, hids⟩ := ih (by simpa [List.filterMap_cons] using htasks) hrows
      cases hgiven with
      | dropped hid =>
        refine ⟨_, hledger.cons p services (.dropped hid), ?_⟩
        simpa [List.filterMap_cons, failedIds_cons, Entry.hasFailed] using hids
    | refused failure =>
      obtain ⟨entries, hledger, hids⟩ := ih (by simpa [List.filterMap_cons] using htasks) hrows
      refine ⟨_, hledger.cons p services (.refused hm), ?_⟩
      have hid : failure.id = m.id := by cases hgiven <;> rfl
      simpa [List.filterMap_cons, failedIds_cons, Entry.hasFailed, Outcome.isFailed, hid] using hids
    | ready task =>
      obtain ⟨row, rows, rfl, hrow, hrest⟩ :=
        List.map_eq_cons_iff.mp (by simpa [List.filterMap_cons] using htasks)
      obtain ⟨outcome, hdone, hended⟩ := hrows row List.mem_cons_self
      obtain ⟨entries, hledger, hids⟩ := ih hrest fun r hr => hrows r (List.mem_cons_of_mem _ hr)
      rw [hrow] at hended
      refine ⟨_, hledger.cons p services (.ended hm hended), ?_⟩
      have hid : row.1.task.id = m.id := by
        rw [hrow]
        cases hgiven
        rfl
      have hrecorded := map_id_recorded hdone
      rw [hid] at hrecorded
      simp only [List.filterMap_cons, Verdict.failure?_ready, List.flatMap_cons,
        List.map_append, hrecorded, failedIds_cons, Entry.hasFailed, Option.any_some]
      -- a failure that was recorded late stands behind those of before the first pull
      exact (List.perm_append_comm_assoc _ _ _).trans (hids.append_left _)

/-- The ledger of a batch: every message has its fate, every call is made for a message, and the
failures are those of the messages that failed. -/
theorem process_ledger {messages : List Message} {s s' : Scene (Recorded σ)} {result : BatchResult}
    (h : (p.recorded.process services.recorded messages).runOn s = (.ok result, s')) :
    ∃ entries calls, s'.calls = s.calls ++ calls ∧ p.IsLedger services entries messages calls ∧
      (result.floor.failures.map (·.id)).Perm (failedIds entries) ∧
        result.report = result.floor.failures.report := by
  obtain ⟨verdicts, free, floor, after, hjudged, hfree, hrun, horder, rfl, rfl⟩ :=
    p.recorded.process_eq_ok services.recorded h
  obtain ⟨haccounted, hthrough⟩ := p.recorded.run_dispatch_spec services.recorded hfree hrun
  obtain ⟨calls, hcalls, rows, hrows, hshares, hperm⟩ := p.run_dispatch_accounts services hrun
  have hended : ∀ r ∈ rows, ∃ outcome, r.1.stage = .done outcome ∧
      p.Ended services r.1.task outcome r.2 := by
    intro r hr
    obtain ⟨outcome, hdone⟩ :=
      Ticket.isThrough_iff.mp (hthrough horder r.1 (hrows ▸ List.mem_map_of_mem hr))
    have hshare := hshares r hr
    rw [hdone] at hshare
    cases hshare with
    | done hended => exact ⟨outcome, hdone, hended⟩
  have htasks : rows.map (·.1.task) = verdicts.filterMap Verdict.task? := by
    rw [← haccounted.tasks_eq, ← hrows, List.map_map]
    rfl
  obtain ⟨entries, hledger, hids⟩ := p.exists_entries services hjudged htasks hended
  refine ⟨entries, calls, hcalls, ⟨hledger.messages_eq, hledger.fate,
    hperm.trans hledger.calls_perm⟩, ?_, rfl⟩
  have hfailures := haccounted.failures_perm.map (·.id)
  rw [List.map_append, ← hrows, List.flatMap_map] at hfailures
  exact hfailures.trans hids

theorem givesUp_of_recorded {messages : List Message} {fault : Fault} {lines : List Line}
    (h : p.recorded.GivesUp messages fault lines) : p.GivesUp messages fault lines := by
  cases h with
  | unjudged h hm => exact .unjudged h hm
  | unpermitted h hfree => exact .unpermitted h hfree

/-- A batch that comes to no result is given up without a call, or one of its requests has met an
order; the calls are those that were made for its requests by then. -/
theorem process_unfinished {messages : List Message} {s s' : Scene (Recorded σ)} {fault : Fault}
    (h : (p.recorded.process services.recorded messages).runOn s = (.error fault, s')) :
    ∃ calls tickets, s'.calls = s.calls ++ calls ∧ p.Accounts services tickets calls ∧
      ((∃ lines, p.GivesUp messages fault lines) ∧ calls = [] ∨
        fault.isInterrupt = true ∧ p.MeetsOrder services messages fault calls) := by
  rcases p.recorded.process_eq_error services.recorded h with
    ⟨lines, hgives, rfl⟩ | ⟨verdicts, free, floor, hjudged, hfree, hrun, horder, hinterrupt⟩
  · exact ⟨[], [], (List.append_nil _).symm, ⟨[], rfl, by simp, by simp⟩,
      .inl ⟨⟨lines, p.givesUp_of_recorded hgives⟩, rfl⟩⟩
  · obtain ⟨haccounted, -⟩ := p.recorded.run_dispatch_spec services.recorded hfree hrun
    obtain ⟨calls, hcalls, haccounts⟩ := p.run_dispatch_accounts services hrun
    refine ⟨calls, floor.tickets, hcalls, haccounts, .inr ⟨hinterrupt, ?_⟩⟩
    -- the ticket that was halted is that of a message
    obtain ⟨t, ht, hs⟩ := Floor.exists_halted_of_order? horder
    obtain ⟨rows, hrows, hshares, hperm⟩ := haccounts
    obtain ⟨row, hrow, rfl⟩ := List.mem_map.mp (hrows ▸ ht)
    have hshare := hshares row hrow
    rw [hs] at hshare
    have htask : row.1.task ∈ verdicts.filterMap Verdict.task? :=
      haccounted.tasks_eq ▸ List.mem_map_of_mem ht
    obtain ⟨verdict, hverdict, hready⟩ := List.mem_filterMap.mp htask
    obtain ⟨m, hm, hgiven⟩ := Verdict.exists_message_of_mem hjudged hverdict
    cases verdict with
    | dropped | refused => cases hready
    | ready task =>
      cases hready
      cases hshare with
      | halted hhalted =>
        exact ⟨m, hm, _, _, hgiven, hhalted, fun c hc =>
          hperm.mem_iff.mpr (List.mem_flatMap.mpr ⟨row, hrow, hc⟩)⟩

end Pipeline

end LogHarvest
