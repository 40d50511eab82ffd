import LogHarvest.Proofs.Queue.Rounds
import LogHarvest.Proofs.Worker.Handling

/-!
# What is delivered again

The same messages reach a pipeline in two ways. In an event they are records of one spelling, and
the response lists the ids that the queue has to deliver again. A poller receives records of another
spelling, and hands over the receipts of all others to have them deleted. Whichever way they come,
the same messages are read from them, and the same ones are delivered again.
-/

namespace LogHarvest

variable {σ α β γ : Type}

/-! ## Letters -/

/-- A message on its way: its id, the handle by which it is deleted, and its text, if it has one. -/
structure Letter where
  id : Text
  handle : Text
  text : Option Text

namespace Letter

/-- The body that a pipeline gets to see. -/
def body (l : Letter) : Json := l.text.elim .null .string

/-- The letter as it is processed. -/
def message (l : Letter) : Message := ⟨.string l.id, l.body⟩

/-- The letter as it is handed over to be deleted. -/
def receipt (l : Letter) : Receipt := ⟨.string l.id, .string l.handle⟩

/-- The record is the letter as events spell it; what else it has does not matter. -/
def IsSent (l : Letter) (record : Json) : Prop :=
  ∃ members, record = .object members ∧
    Json.find? members "messageId" = some (.string l.id) ∧
    (Json.find? members "body").getD .null = l.body ∧ Json.find? members "Body" = none

/-- The record is the letter as replies of the queue spell it. -/
def IsReceived (l : Letter) (record : Json) : Prop :=
  ∃ members, record = .object members ∧
    Json.find? members "MessageId" = some (.string l.id) ∧
    Json.find? members "ReceiptHandle" = some (.string l.handle) ∧
    (Json.find? members "Body").getD .null = l.body ∧
    Json.find? members "messageId" = none ∧ Json.find? members "body" = none

theorem ofRecord_of_isSent {l : Letter} {record : Json} (h : l.IsSent record) :
    Message.ofRecord record = .ok l.message := by
  obtain ⟨members, rfl, hid, hbody, hother⟩ := h
  simp [Message.ofRecord, Message.field, Json.member?, hid, hbody, hother, message, bind,
    Except.bind, pure, Except.pure]

theorem ofRecord_of_isReceived {l : Letter} {record : Json} (h : l.IsReceived record) :
    Message.ofRecord record = .ok l.message := by
  obtain ⟨members, rfl, hid, -, hbody, hotherId, hotherBody⟩ := h
  simp [Message.ofRecord, Message.field, Json.member?, hid, hbody, hotherId, hotherBody, message,
    bind, Except.bind, pure, Except.pure]

theorem receiptOf_of_isReceived {l : Letter} {record : Json} (h : l.IsReceived record) :
    QueueSource.receiptOf record = .ok l.receipt := by
  obtain ⟨members, rfl, hid, hhandle, -⟩ := h
  simp [QueueSource.receiptOf, Json.demand, hid, hhandle, receipt, bind, Except.bind, pure,
    Except.pure]

/-- A record that an event may have for the letter. -/
def sent (l : Letter) : Json :=
  .object (("messageId", .string l.id) :: l.text.toList.map fun t => ("body", .string t))

/-- A record that a reply may have for the letter. -/
def received (l : Letter) : Json :=
  .object (("MessageId", .string l.id) :: ("ReceiptHandle", .string l.handle) ::
    l.text.toList.map fun t => ("Body", .string t))

theorem isSent_sent (l : Letter) : l.IsSent l.sent := by
  obtain ⟨id, handle, _ | text⟩ := l
  · exact ⟨_, rfl, rfl, rfl, rfl⟩
  · exact ⟨_, rfl, rfl, rfl, rfl⟩

theorem isReceived_received (l : Letter) : l.IsReceived l.received := by
  obtain ⟨id, handle, _ | text⟩ := l
  · exact ⟨_, rfl, rfl, rfl, rfl, rfl, rfl⟩
  · exact ⟨_, rfl, rfl, rfl, rfl, rfl, rfl⟩

end Letter

theorem mapM_of_forall₂ {R : α → β → Prop} {as : List α} {bs : List β} (h : List.Forall₂ R as bs)
    {f : β → Except Fault γ} {g : α → γ} (hf : ∀ {a b}, R a b → f b = .ok (g a)) :
    bs.mapM f = .ok (as.map g) := by
  induction h with
  | nil => rfl
  | cons hab _ ih =>
    rw [List.mapM_cons, bind_of_eq_ok (hf hab), bind_of_eq_ok ih]
    rfl

/-! ## Letters in an event -/

namespace Worker

/-- The event brings the letters. -/
def Brings (event : Json) (letters : List Letter) : Prop :=
  ∃ members records, event = .object members ∧
    Json.find? members "Records" = some (.array records) ∧
    List.Forall₂ Letter.IsSent letters records

theorem messagesOf_of_brings {event : Json} {letters : List Letter} (h : Brings event letters) :
    messagesOf event = .ok (letters.map Letter.message) := by
  obtain ⟨members, records, rfl, hrecords, hall⟩ := h
  have hmember : (Json.object members).member? "Records" = .ok (some (.array records)) := by
    rw [Json.member?, hrecords]
  rw [messagesOf, bind_of_eq_ok hmember]
  exact mapM_of_forall₂ hall Letter.ofRecord_of_isSent

/-- The ids that a response lists. -/
def reportedIds (response : Json) : List Json :=
  match response.get? "batchItemFailures" with
  | some (.array items) => items.filterMap fun item => item.get? "itemIdentifier"
  | _ => []

theorem reportedIds_response (result : BatchResult) :
    reportedIds (response result) = result.report.getD [] := by
  unfold response
  cases result.report with
  | none => rfl
  | some ids =>
    have hget : ∀ id : Json, (Json.object [(Text.ofString "itemIdentifier", id)]).get?
        "itemIdentifier" = some id := fun id => by simp [Json.get?, Json.find?]
    simp [reportedIds, Failures.reportJson, Json.get?, Json.find?]

theorem response_eq_null_iff (result : BatchResult) :
    response result = .null ↔ result.report = none := by
  unfold response
  cases result.report with
  | none => simp
  | some ids => simp [Failures.reportJson]

/-- The calls that an event leads to. -/
def calls [Platform] (p : Pipeline σ) (services : Services σ) (event : Json) (scene : Scene σ) :
    List Call :=
  ((handle p.recorded services.recorded event).runOn (scene.recording [])).2.calls

end Worker

/-! ## Letters in a reply -/

/-- The reply to a call for messages brings the letters. -/
def QueueReply.Brings (reply : QueueReply) (letters : List Letter) : Prop :=
  ∃ members records, reply.answer = .ok (.object members) ∧
    Json.find? members "Messages" = some (.array records) ∧
    List.Forall₂ Letter.IsReceived letters records

namespace QueueSource

/-- The batch that the letters make. -/
def batchOfLetters (letters : List Letter) : Received :=
  ⟨letters.map Letter.message, letters.map Letter.receipt⟩

theorem batchOf_of_brings {reply : QueueReply} {letters : List Letter} (h : reply.Brings letters) :
    reply.answer.bind batchOf = .ok (batchOfLetters letters) := by
  obtain ⟨members, records, hanswer, hrecords, hall⟩ := h
  have hmember : (Json.object members).member? "Messages" = .ok (some (.array records)) := by
    rw [Json.member?, hrecords]
  have hboth : (records.mapM fun m => do return (← receiptOf m, ← Message.ofRecord m)) =
      .ok (letters.map fun l => (l.receipt, l.message)) := by
    refine mapM_of_forall₂ hall fun hl => ?_
    rw [bind_of_eq_ok (Letter.receiptOf_of_isReceived hl),
      bind_of_eq_ok (Letter.ofRecord_of_isReceived hl)]
    rfl
  have hparts : ((some (Json.array records)).getD (.array [])).parts = .ok records := rfl
  have hbatch : batchOf (.object members) = .ok (batchOfLetters letters) := by
    rw [batchOf, bind_of_eq_ok hmember, bind_of_eq_ok hparts, bind_of_eq_ok hboth, List.map_map,
      List.map_map]
    rfl
  rw [hanswer]
  exact hbatch

/-! ## What is deleted -/

/-- All ids are texts. -/
def AreTexts (ids : List Json) : Prop := ∀ id ∈ ids, ∃ t, id = .string t

theorem AreTexts.isKey {ids : List Json} (h : AreTexts ids) :
    ∀ id ∈ ids, (Value.ofJson id).isKey = true := by
  intro id hid
  obtain ⟨t, rfl⟩ := h id hid
  rfl

theorem toDelete_of_texts {receipts : List Receipt} {failed : List Json} (hfailed : AreTexts failed)
    (hreceipts : AreTexts (receipts.map (·.id))) :
    toDelete receipts failed = .ok (receipts.filter fun r => !isAmong failed r.id) :=
  toDelete_of_keys hfailed.isKey (List.forall_mem_map.mp hreceipts.isKey)

end QueueSource

/-! ## A batch returns on either way -/

namespace Pipeline

variable {p : Pipeline σ} {services : Services σ} {messages : List Message} {result : BatchResult}

/-- A batch that returns in one scene returns in any other, unless it meets an order there. -/
theorem process_of_returns [Json.Limits] {scene after : Scene σ}
    (h : (p.process services messages).runOn scene = (.ok result, after)) (s : Scene (Recorded σ)) :
    (∃ result' s', (p.recorded.process services.recorded messages).runOn s = (.ok result', s')) ∨
      ∃ order s' work,
        (p.recorded.process services.recorded messages).runOn s = (.error order, s') ∧
        s'.calls = s.calls ++ work ∧ (∀ call ∈ work, call.IsWork) ∧
        p.MeetsOrder services messages order work := by
  rcases hrun : (p.recorded.process services.recorded messages).runOn s with ⟨fault | result', s'⟩
  · obtain ⟨work, tickets, hwork, haccounts, ⟨⟨lines, hgives⟩, -⟩ | ⟨-, hmeets⟩⟩ :=
      p.process_unfinished services hrun
    · cases h.symm.trans (p.process_of_givesUp services hgives scene)
    · exact .inr ⟨fault, s', work, rfl, hwork,
        fun call hcall => isWork_of_accounts haccounts hcall, hmeets⟩
  · exact .inl ⟨result', s', rfl⟩

/-- A report lists ids of the messages. -/
theorem exists_of_mem_report [Json.Limits] {entries : List Entry} {calls : List Call}
    (h : p.IsLedger services entries messages calls)
    (hids : (result.floor.failures.map (·.id)).Perm (failedIds entries))
    (hreport : result.report = result.floor.failures.report) {id : Json}
    (hid : id ∈ result.report.getD []) : ∃ m ∈ messages, m.id = id := by
  rw [hreport, Failures.getD_report] at hid
  obtain ⟨e, he, rfl⟩ := List.mem_map.mp (hids.subset hid)
  refine ⟨e.message, ?_, rfl⟩
  rw [← h.messages_eq]
  exact List.mem_map_of_mem (List.mem_filter.mp he).1

/-- A report lists the messages that fail by themselves. -/
theorem report_perm_of_ledger [Json.Limits] {entries : List Entry} {calls : List Call} {c : Conduct}
    (h : p.IsLedger services entries messages calls)
    (hids : (result.floor.failures.map (·.id)).Perm (failedIds entries))
    (hreport : result.report = result.floor.failures.report) (hd : c.Describes p services calls) :
    (result.report.getD []).Perm
      ((messages.filter fun m => (c.lot p m).isFailed).map (·.id)) := by
  rw [hreport, Failures.getD_report]
  rwa [failedIds_eq_of_isFailed h fun e he =>
    Conduct.isFailed_of_fate (h.fate e he) (describes_of_mem h hd he)] at hids

end Pipeline

theorem Failures.report_eq_none_iff_getD (fs : Failures) :
    fs.report = none ↔ fs.report.getD [] = [] := by
  rw [report_eq_none_iff, getD_report, List.map_eq_nil_iff]

namespace Poller

/-! ## What is reported and what is handed over -/

section Reported

variable {letters : List Letter} {failed reported : List Json}

/-- The receipts of the letters that did not fail. -/
def receiptsBut (failed : List Json) (letters : List Letter) : List Receipt :=
  (letters.map Letter.receipt).filter fun r => !QueueSource.isAmong failed r.id

/-- Every id is that of a letter. -/
def AreOf (letters : List Letter) (ids : List Json) : Prop :=
  ∀ id ∈ ids, ∃ l ∈ letters, .string l.id = id

theorem AreOf.areTexts {ids : List Json} (h : AreOf letters ids) : QueueSource.AreTexts ids := by
  intro id hid
  obtain ⟨l, -, rfl⟩ := h id hid
  exact ⟨l.id, rfl⟩

theorem areOf_report [Json.Limits] {p : Pipeline σ} {services : Services σ}
    {entries : List Pipeline.Entry} {calls : List Call} {result : BatchResult}
    (h : p.IsLedger services entries (letters.map Letter.message) calls)
    (hids : (result.floor.failures.map (·.id)).Perm (Pipeline.failedIds entries))
    (hreport : result.report = result.floor.failures.report) :
    AreOf letters (result.report.getD []) := by
  intro id hid
  obtain ⟨m, hm, rfl⟩ := Pipeline.exists_of_mem_report h hids hreport hid
  obtain ⟨l, hl, rfl⟩ := List.mem_map.mp hm
  exact ⟨l, hl, rfl⟩

theorem toDelete_of_areOf (h : AreOf letters failed) :
    QueueSource.toDelete (QueueSource.batchOfLetters letters).receipts failed =
      .ok (receiptsBut failed letters) := by
  refine QueueSource.toDelete_of_texts h.areTexts ?_
  intro id hid
  obtain ⟨r, hr, rfl⟩ := List.mem_map.mp hid
  obtain ⟨l, -, rfl⟩ := List.mem_map.mp hr
  exact ⟨l.id, rfl⟩

variable (hsame : failed.Perm reported)

include hsame

theorem isAmong_iff_reported (l : Letter) :
    QueueSource.isAmong failed l.receipt.id = true ↔ .string l.id ∈ reported :=
  QueueSource.isAmong_text_iff.trans hsame.mem_iff

theorem mem_receiptsBut_iff {l : Letter} (hl : l ∈ letters) :
    l.receipt ∈ receiptsBut failed letters ↔ .string l.id ∉ reported := by
  rw [receiptsBut, List.mem_filter, ← isAmong_iff_reported hsame l]
  simp [List.mem_map_of_mem hl]

variable (hletter : AreOf letters reported)

include hletter

/-- The ids that are reported are those of letters that are not handed over. -/
theorem mem_reported_iff (id : Json) :
    id ∈ reported ↔ (∃ l ∈ letters, .string l.id = id) ∧
      ∀ r ∈ receiptsBut failed letters, r.id ≠ id := by
  constructor
  · intro hid
    refine ⟨hletter id hid, ?_⟩
    rintro r hr rfl
    obtain ⟨hmem, hkept⟩ := List.mem_filter.mp hr
    obtain ⟨l, -, rfl⟩ := List.mem_map.mp hmem
    simp [(isAmong_iff_reported hsame l).mpr hid] at hkept
  · rintro ⟨⟨l, hl, rfl⟩, hnone⟩
    by_contra hid
    exact hnone _ ((mem_receiptsBut_iff hsame hl).mpr hid) rfl

/-- Nothing is reported exactly if all letters are handed over. -/
theorem reported_eq_nil_iff :
    reported = [] ↔ ∀ l ∈ letters, l.receipt ∈ receiptsBut failed letters := by
  constructor
  · rintro rfl l hl
    exact (mem_receiptsBut_iff hsame hl).mpr List.not_mem_nil
  · intro hall
    refine List.eq_nil_iff_forall_not_mem.mpr fun id hid => ?_
    obtain ⟨l, hl, rfl⟩ := hletter id hid
    exact (mem_receiptsBut_iff hsame hl).mp (hall l hl) hid

end Reported

/-! ## A round with letters -/

variable {p : Poller σ} {services : Services σ} {s : Scene (Recorded σ)}

theorem step_asking_of_brings [Json.Limits] {letters : List Letter} {batches : Nat}
    {reply : QueueReply} (hpolling : s.polling = true) (hsated : p.isSated batches = false)
    (hreply : ((services.queue (.receive p.source.url QueueSource.callLimit p.source.wait)).run
      s.outside.inner).1 = reply) (hbrings : reply.Brings letters) :
    ∃ s', (p.recorded.step services.recorded ⟨.asking, batches⟩).runOn s =
        (.ok (if letters = [] then ⟨.resting, batches⟩
          else ⟨.holding (QueueSource.batchOfLetters letters), batches + 1⟩), s') ∧
      s'.calls =
        s.calls ++ [.queue (.receive p.source.url QueueSource.callLimit p.source.wait) reply] := by
  obtain ⟨hanswer, hcalls⟩ := QueueSource.receive_of_reply (q := p.source) (s := s) hreply
  rw [QueueSource.batchOf_of_brings hbrings] at hanswer
  have hgoes : (!s.polling || p.recorded.isSated batches) = false := by
    rw [hpolling]
    exact hsated
  rw [runOn_step_asking, hgoes, if_neg (by simp), runOn_ask_eq, recorded_source,
    tolerate_of_ok (Prod.ext hanswer rfl)]
  refine ⟨_, ?_, hcalls⟩
  cases letters <;> rfl

/-- Letters in hand that come to a result are processed, and then the receipts of those that did not
fail are handed over. -/
theorem steps_holding [Json.Limits] {letters : List Letter} {result : BatchResult}
    {s' : Scene (Recorded σ)}
    (hrun : (p.pipeline.recorded.process services.recorded (letters.map Letter.message)).runOn s =
      (.ok result, s')) (n batches : Nat) :
    ∃ failed work deletions more, ((p.recorded.steps services.recorded (n + 2)
        ⟨.holding (QueueSource.batchOfLetters letters), batches⟩).runOn s).2.calls =
          s.calls ++ (work ++ (deletions ++ more)) ∧
      (∀ call ∈ work, call.isReceive = false ∧ call.receipts = []) ∧
      List.Forall₂ (QueueSource.Deletes p.source.url)
        (QueueSource.groups (receiptsBut failed letters)) deletions ∧
      handedOver (untilReceive more) = [] ∧
      ∀ c : Conduct, c.Describes p.pipeline services work →
        failed.Perm (((letters.map Letter.message).filter fun m =>
          (c.lot p.pipeline m).isFailed).map (·.id)) := by
  obtain ⟨entries, work, hwork, hledger, hids, hreport⟩ := p.pipeline.process_ledger services hrun
  have hheld := runOn_step_holding p.recorded services.recorded s
    (QueueSource.batchOfLetters letters) batches
  rw [show p.recorded.pipeline = p.pipeline.recorded from rfl,
    show (QueueSource.batchOfLetters letters).messages = letters.map Letter.message from rfl,
    hrun] at hheld
  obtain ⟨deletions, more, hmore, hall, hnothing⟩ := p.steps_deleting services
    (toDelete_of_areOf (areOf_report hledger hids hreport)) n batches s'
  have hquiet : ∀ call ∈ work, call.isReceive = false ∧ call.receipts = [] := fun call hcall =>
    ⟨(Pipeline.not_queue_of_ledger hledger hcall).1,
      List.flatMap_eq_nil_iff.mp (receipts_of_ledger hledger) call hcall⟩
  refine ⟨result.report.getD [], work, deletions, more, ?_, hquiet, hall, hnothing,
    fun c hd => Pipeline.report_perm_of_ledger hledger hids hreport hd⟩
  rw [steps_of_ok rfl hheld, hmore, hwork, List.append_assoc]

/-- Letters in hand that meet an order end the run. -/
theorem steps_holding_of_order [Json.Limits] {letters : List Letter} {order : Fault}
    {s' : Scene (Recorded σ)}
    (hrun : (p.pipeline.recorded.process services.recorded (letters.map Letter.message)).runOn s =
      (.error order, s')) (n batches : Nat) :
    (p.recorded.steps services.recorded (n + 1)
      ⟨.holding (QueueSource.batchOfLetters letters), batches⟩).runOn s = (.error order, s') := by
  have hheld := runOn_step_holding p.recorded services.recorded s
    (QueueSource.batchOfLetters letters) batches
  rw [show p.recorded.pipeline = p.pipeline.recorded from rfl,
    show (QueueSource.batchOfLetters letters).messages = letters.map Letter.message from rfl,
    hrun] at hheld
  exact steps_of_error rfl hheld n

/-- A round that brings letters hands over the receipts of those that did not fail, as long as the
world outside keeps to a conduct under which no order is met. -/
theorem handedOver_round [Json.Limits] {letters : List Letter} {scene scene₀ after₀ : Scene σ}
    {result₀ : BatchResult} {n batches : Nat} {reply : QueueReply} {c : Conduct}
    (hpolling : scene.polling = true) (hsated : p.isSated batches = false) (hn : 3 ≤ n)
    (hreply : ((services.queue (.receive p.source.url QueueSource.callLimit p.source.wait)).run
      scene.outside).1 = reply) (hbrings : reply.Brings letters)
    (hreturns : (p.pipeline.process services (letters.map Letter.message)).runOn scene₀ =
      (.ok result₀, after₀))
    (hspared : ∀ order work, c.Describes p.pipeline services work →
      ¬ p.pipeline.MeetsOrder services (letters.map Letter.message) order work)
    (hd : c.Describes p.pipeline services (p.roundCalls services n batches scene)) :
    ∃ failed, handedOver (p.roundCalls services n batches scene) = receiptsBut failed letters ∧
      failed.Perm (((letters.map Letter.message).filter fun m =>
        (c.lot p.pipeline m).isFailed).map (·.id)) := by
  obtain ⟨n, rfl⟩ : ∃ m, n = m + 3 := ⟨n - 3, by omega⟩
  obtain ⟨s₁, hasked, hcalls₁⟩ := step_asking_of_brings (s := scene.recording []) hpolling hsated
    hreply hbrings
  rw [Scene.calls_recording, List.nil_append] at hcalls₁
  rw [roundCalls, steps_of_ok rfl hasked] at hd ⊢
  by_cases hnone : letters = []
  · -- nothing came, so nothing is in hand
    subst hnone
    have hidle : (Progress.mk .resting batches).phase.isIdle = true := rfl
    obtain ⟨more, hmore, hnothing⟩ := p.steps_idle services (n + 2) hidle s₁
    refine ⟨[], ?_, .nil⟩
    rw [if_pos rfl, hmore, hcalls₁]
    exact hnothing
  rw [if_neg hnone] at hd ⊢
  rcases Pipeline.process_of_returns hreturns s₁ with
    ⟨result, s', hrun⟩ | ⟨order, s', work, hrun, hwork, hiswork, hmeets⟩
  · obtain ⟨failed, work, deletions, more, hmore, hquiet, hall, hnothing, hfailed⟩ :=
      steps_holding hrun n (batches + 1)
    have hasks : (Call.queue (.receive p.source.url QueueSource.callLimit p.source.wait)
      reply).receipts = [] := rfl
    obtain ⟨hround, hsub⟩ := firstRound_of_deletes hasks hquiet hall hnothing
    rw [hmore, hcalls₁, List.singleton_append] at hd ⊢
    exact ⟨failed, hround, hfailed c (hd.subset hsub)⟩
  · -- the calls of a batch that meets an order are calls of this round, too
    rw [steps_holding_of_order hrun (n + 1), hwork, hcalls₁, List.singleton_append, firstRound,
      ← List.append_nil work, untilReceive_append fun call hcall =>
        (hiswork call hcall).not_queue.1] at hd
    exact absurd hmeets (hspared order work (hd.subset fun call hcall =>
      List.mem_cons_of_mem _ (List.mem_append_left _ hcall)))

/--
**An event and a poller have the same messages delivered again.**

Let the same letters come in an event and in the reply to a poller that asks for messages, and let
sources and storage do the same for the same source on both ways. If the event is processed at all,
its response lists exactly the ids among the letters that the round of the poller hands over no
receipt of; and it is null exactly if the poller hands over the receipts of all letters.
-/
theorem redelivered_alike [Platform] {p : Poller σ} {services : Services σ} {c : Conduct}
    {letters : List Letter} {event : Json} {reply : QueueReply} {scene after scene' : Scene σ}
    {result : BatchResult} {n batches : Nat} (hevent : Worker.Brings event letters)
    (hresult : (Worker.handle p.pipeline services event).runOn scene = (.ok result, after))
    (hworker : c.Describes p.pipeline services (Worker.calls p.pipeline services event scene))
    (hpolling : scene'.polling = true) (hsated : p.isSated batches = false) (hn : 3 ≤ n)
    (hreply : ((services.queue (.receive p.source.url QueueSource.callLimit p.source.wait)).run
      scene'.outside).1 = reply) (hbrings : reply.Brings letters)
    (hpoller : c.Describes p.pipeline services (p.roundCalls services n batches scene')) :
    (∀ id, id ∈ Worker.reportedIds (Worker.response result) ↔
      (∃ l ∈ letters, .string l.id = id) ∧
        ∀ r ∈ handedOver (p.roundCalls services n batches scene'), r.id ≠ id) ∧
      (Worker.response result = .null ↔
        ∀ l ∈ letters, l.receipt ∈ handedOver (p.roundCalls services n batches scene')) := by
  have hmessages := Worker.messagesOf_of_brings hevent
  rw [Worker.runOn_handle hmessages] at hresult
  obtain ⟨entries, hledger, hids, hreport⟩ := Pipeline.exists_ledger hresult
  rw [Worker.calls, Worker.runOn_handle hmessages] at hworker
  obtain ⟨failed, hround, hfailed⟩ := p.handedOver_round hpolling hsated hn hreply hbrings hresult
    (fun order work hd => Pipeline.not_meetsOrder_of_ledger hledger hworker hd) hpoller
  -- both lists of failures are the messages that fail by themselves
  have hsame : failed.Perm (result.report.getD []) :=
    hfailed.trans (Pipeline.report_perm_of_ledger hledger hids hreport hworker).symm
  have hletter : AreOf letters (result.report.getD []) := areOf_report hledger hids hreport
  rw [hround, Worker.reportedIds_response, Worker.response_eq_null_iff, hreport,
    Failures.report_eq_none_iff_getD, ← hreport]
  exact ⟨mem_reported_iff hsame hletter, reported_eq_nil_iff hsame hletter⟩

attribute [local instance] Platform.builtIn

/-- Three letters: a request, a text that breaks off, and a request that has the id of the
second. -/
def shelfLetters : List Letter :=
  let request := Json.print (.object [("log_source_name", .string "ok"), ("time", .string "now")])
  [⟨"m1", "r1", some request⟩, ⟨"m2", "r2", some "\x7b"⟩, ⟨"m2", "r3", some request⟩]

/-- The letters in an event. -/
def shelfEvent : Json := .object [("Records", .array (shelfLetters.map Letter.sent))]

/-- The letters in a reply. -/
def lettersReply : QueueReply where
  answer := .ok (.object [("Messages", .array (shelfLetters.map Letter.received))])
  stop := false

/-- Whether a call was answered as sources and storage do on a shelf. -/
def isShelved : Call → Bool
  | .pull route pull => match pull.answer with
    | .ok data => data == route.secretRef.map fun s => UInt8.ofNat s.code
    | .error _ => false
  | .store _ answer => answer.isOk
  | .queue .. => true

theorem describes_of_isShelved {calls : List Call} (h : calls.all isShelved = true) :
    Pipeline.shelfConduct.Describes shelfPoller.pipeline Shelf.services calls := by
  rw [List.all_eq_true] at h
  refine ⟨fun route pull hmem => ?_, fun source id body answer _ hmem => ?_⟩
  · have hpull := h _ hmem
    obtain ⟨seconds, _ | data⟩ := pull
    · cases hpull
    · exact congrArg Except.ok (eq_of_beq hpull)
  · obtain ⟨_, hok⟩ := exists_of_isOk (h _ hmem)
    exact hok

/-- Neither letter with the id of the one that breaks off is handed over, and the response lists
this id. -/
theorem both_of_one_id_redelivered :
    let scene : Scene Shelf := { Scene.start (.empty [lettersReply]) with polling := true }
    ∃ result after, (Worker.handle shelfPoller.pipeline Shelf.services shelfEvent).runOn
        (.start (.empty [])) = (.ok result, after) ∧
      (∀ id, id ∈ Worker.reportedIds (Worker.response result) ↔
        (∃ l ∈ shelfLetters, .string l.id = id) ∧
          ∀ r ∈ handedOver (shelfPoller.roundCalls Shelf.services 9 0 scene), r.id ≠ id) ∧
      handedOver (shelfPoller.roundCalls Shelf.services 9 0 scene) =
        [⟨.string "m1", .string "r1"⟩] := by
  have hok : ((Worker.handle shelfPoller.pipeline Shelf.services shelfEvent).runOn
      (.start (.empty []))).1.isOk = true := by cbv
  have hworker : (Worker.calls shelfPoller.pipeline Shelf.services shelfEvent
      (.start (.empty []))).all isShelved = true := by cbv
  have hpoller : (shelfPoller.roundCalls Shelf.services 9 0
      { Scene.start (.empty [lettersReply]) with polling := true }).all isShelved = true := by cbv
  have hhanded : handedOver (shelfPoller.roundCalls Shelf.services 9 0
      { Scene.start (.empty [lettersReply]) with polling := true }) =
        [⟨.string "m1", .string "r1"⟩] := by cbv
  intro scene
  obtain ⟨result, hresult⟩ := exists_of_isOk hok
  have hrun : (Worker.handle shelfPoller.pipeline Shelf.services shelfEvent).runOn
      (.start (.empty [])) = (.ok result, _) := Prod.ext hresult rfl
  have hevent : Worker.Brings shelfEvent shelfLetters :=
    ⟨_, _, rfl, rfl, List.forall₂_map_right_iff.mpr
      (List.forall₂_same.mpr fun l _ => l.isSent_sent)⟩
  have hreply : lettersReply.Brings shelfLetters :=
    ⟨_, _, rfl, rfl, List.forall₂_map_right_iff.mpr
      (List.forall₂_same.mpr fun l _ => l.isReceived_received)⟩
  have hasked : ((Shelf.services.queue (.receive shelfPoller.source.url QueueSource.callLimit
    shelfPoller.source.wait)).run scene.outside).1 = lettersReply := rfl
  obtain ⟨hids, -⟩ := redelivered_alike hevent hrun (describes_of_isShelved hworker) rfl rfl
    (by decide) hasked hreply (describes_of_isShelved hpoller)
  exact ⟨result, _, hrun, hids, hhanded⟩

end Poller

end LogHarvest
