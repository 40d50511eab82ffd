import LogHarvest.Proofs.Batch.Reference
import LogHarvest.Proofs.Queue.Calls

/-!
# Only what is safe is deleted

A poller hands over receipts to the queue to have their messages deleted. `Warranted` is what has to
stand on record before it may: a batch that holds the receipts, received last, and a ledger of that
batch in which every message of these ids is safe. Each step of a poller keeps it that way
(`step_sound`), so all deletions of a run are warranted, however many fail and wherever the run
ends.
-/

namespace LogHarvest

variable {σ : Type}

namespace Call

/-- Whether the call asks for messages. -/
def isReceive : Call → Bool
  | queue (.receive ..) _ => true
  | _ => false

/-- Whether the call hands over receipts. -/
def isDelete : Call → Bool
  | queue (.delete ..) _ => true
  | _ => false

/-- The receipts that the call hands over. -/
def receipts : Call → List Receipt
  | queue (.delete _ receipts) _ => receipts
  | _ => []

/-- The call is one of a connector or of the object store. -/
def IsWork (c : Call) : Prop :=
  (∃ route pull, c = .pull route pull) ∨ ∃ object answer, c = .store object answer

theorem IsWork.not_queue {c : Call} (h : c.IsWork) :
    c.isReceive = false ∧ c.isDelete = false := by
  rcases h with ⟨route, pull, rfl⟩ | ⟨object, answer, rfl⟩
  · exact ⟨rfl, rfl⟩
  · exact ⟨rfl, rfl⟩

end Call

namespace Pipeline

/-! ## The calls of a batch -/

section Work

variable {p : Pipeline σ} {services : Services σ}

theorem isWork_of_pulled {task : Task} {answer : Except Fault Bytes} {calls : List Call}
    (h : p.Pulled task answer calls) : ∀ c ∈ calls, c.IsWork := by
  cases h with
  | pulled hfind hpull => exact fun c hc => Or.inl ⟨_, _, List.mem_singleton.mp hc⟩
  | unregistered hfind => simp

theorem isWork_append {calls more : List Call} (h : ∀ c ∈ calls, c.IsWork)
    (hmore : ∀ c ∈ more, c.IsWork) : ∀ c ∈ calls ++ more, c.IsWork :=
  fun c hc => (List.mem_append.mp hc).elim (h c) (hmore c)

theorem isWork_of_ended {task : Task} {outcome : Outcome} {calls : List Call}
    (h : p.Ended services task outcome calls) : ∀ c ∈ calls, c.IsWork := by
  cases h with
  | notPulled hpulled => exact isWork_of_pulled hpulled
  | pulled hpulled harchiving =>
    refine isWork_append (isWork_of_pulled hpulled) fun c hc => ?_
    cases harchiving with
    | nothing | uncompressed => cases hc
    | refused | stored => exact Or.inr ⟨_, _, List.mem_singleton.mp hc⟩

theorem isWork_of_halted {task : Task} {order : Fault} {calls : List Call}
    (h : p.Halted services task order calls) : ∀ c ∈ calls, c.IsWork := by
  cases h with
  | notPulled hpulled => exact isWork_of_pulled hpulled
  | pulled hpulled hhalting =>
    refine isWork_append (isWork_of_pulled hpulled) fun c hc => ?_
    cases hhalting with
    | uncompressed => cases hc
    | refused => exact Or.inr ⟨_, _, List.mem_singleton.mp hc⟩

theorem isWork_of_share {task : Task} {stage : Stage} {calls : List Call}
    (h : p.Share services task stage calls) : ∀ c ∈ calls, c.IsWork := by
  cases h with
  | waiting => simp
  | pulling hpulled | archiving hpulled => exact isWork_of_pulled hpulled
  | settled hended | released hended | done hended => exact isWork_of_ended hended
  | halted hhalted => exact isWork_of_halted hhalted

theorem isWork_of_accounts {tickets : List Ticket} {calls : List Call}
    (h : p.Accounts services tickets calls) {c : Call} (hc : c ∈ calls) : c.IsWork := by
  obtain ⟨rows, -, hshares, hperm⟩ := h
  obtain ⟨row, hrow, hcrow⟩ := List.mem_flatMap.mp (hperm.subset hc)
  exact isWork_of_share (hshares row hrow) c hcrow

end Work

/-! ## Safe messages -/

variable (p : Pipeline σ) (services : Services σ)

variable [Json.Limits]

/-- The message is safe: its own pull brought nothing new, or what it brought is in the object
store. -/
def IsSafe (e : Entry) : Prop :=
  ∃ request route seconds data, PullRequest.ofBody e.message.body = .ok request ∧
    p.routing.find? request.source = some route ∧ Call.pull route ⟨seconds, .ok data⟩ ∈ e.calls ∧
    (data = [] ∧ e.outcome = some .noNewData ∨
      ∃ object, Call.store object (.ok ()) ∈ e.calls ∧
        p.Holds services (request.source, data) object ∧
        e.outcome = some (.archived data.length object.key))

variable {p services}

theorem isSafe_of_ended (hw : p.writer.codec.IsLossless) {m : Message} {task : Task}
    {outcome : Outcome} {calls : List Call}
    (hverdict : Verdict.ofMessage p.routing m = .ok (.ready task))
    (hended : p.Ended services task outcome calls) (hok : outcome.isFailed = false) :
    p.IsSafe services ⟨m, some outcome, calls⟩ := by
  cases Verdict.given_of_eq_ok hverdict with
  | @ready request route _ hbody hroute =>
    cases hended with
    | notPulled => cases hok
    | @pulled data _ _ more hpulled harchiving =>
      cases hpulled with
      | @pulled connector seconds _ hfind hpull =>
        refine ⟨request, route, seconds, data, hbody, hroute,
          List.mem_append_left _ List.mem_cons_self, ?_⟩
        cases harchiving with
        | nothing => exact Or.inl ⟨rfl, rfl⟩
        | uncompressed => cases hok
        | refused => cases hok
        | @stored _ body id hdata hcompress hgives hstore =>
          refine Or.inr ⟨p.objectOf request.source id body, ?_,
            ⟨rfl, ⟨id, hgives, rfl⟩, hw data body hcompress⟩, rfl⟩
          exact List.mem_append_right _ List.mem_cons_self

theorem isSafe_of_fate (hw : p.writer.codec.IsLossless) {m : Message} {outcome : Option Outcome}
    {calls : List Call} (h : p.Fate services m outcome calls) (hid : m.id.isNull = false)
    (hok : outcome.any Outcome.isFailed = false) :
    p.IsSafe services ⟨m, outcome, calls⟩ := by
  cases h with
  | dropped hnull => cases hnull.symm.trans hid
  | refused => cases hok
  | ended hverdict hended => exact isSafe_of_ended hw hverdict hended hok

theorem isWork_of_fate {m : Message} {outcome : Option Outcome} {calls : List Call}
    (h : p.Fate services m outcome calls) : ∀ c ∈ calls, c.IsWork := by
  cases h with
  | dropped | refused => simp
  | ended hverdict hended => exact isWork_of_ended hended

/-- A batch calls connectors and the object store, and nothing else. -/
theorem isWork_of_ledger {entries : List Entry} {messages : List Message}
    {calls : List Call} (h : p.IsLedger services entries messages calls) {c : Call}
    (hc : c ∈ calls) : c.IsWork := by
  obtain ⟨e, he, hce⟩ := List.mem_flatMap.mp (h.calls_perm.subset hc)
  exact isWork_of_fate (h.fate e he) c hce

/-- A batch never calls the queue. -/
theorem not_queue_of_ledger {entries : List Entry} {messages : List Message} {calls : List Call}
    (h : p.IsLedger services entries messages calls) {c : Call} (hc : c ∈ calls) :
    c.isReceive = false ∧ c.isDelete = false := (isWork_of_ledger h hc).not_queue

end Pipeline

/-! ## What stands on record -/

/-- The batch is what was received last, and these are the calls since then. -/
def LastReceived (calls : List Call) (batch : Received) (since : List Call) : Prop :=
  ∃ earlier call reply, calls = earlier ++ .queue call reply :: since ∧
    (Call.queue call reply).isReceive = true ∧
    reply.answer.bind QueueSource.batchOf = .ok batch ∧ ∀ c ∈ since, c.isReceive = false

theorem LastReceived.append {calls since new : List Call} {batch : Received}
    (h : LastReceived calls batch since)
    (hnew : ∀ c ∈ new, c.isReceive = false) : LastReceived (calls ++ new) batch (since ++ new) := by
  obtain ⟨earlier, call, reply, rfl, hreceive, hbatch, hsince⟩ := h
  refine ⟨earlier, call, reply, by simp, hreceive, hbatch, ?_⟩
  intro c hc
  exact (List.mem_append.mp hc).elim (hsince c) (hnew c)

namespace Poller

variable (p : Poller σ) (services : Services σ)

variable [Json.Limits]

/-- Behind these calls the receipts may be handed over: they belong to the batch that was received
last, none of them has been handed over since, and every message of their ids is safe. -/
def Warranted (calls : List Call) (receipts : List Receipt) : Prop :=
  ∃ batch entries work deletions, LastReceived calls batch (work ++ deletions) ∧
    p.pipeline.IsLedger services entries batch.messages work ∧
    ((work ++ deletions).flatMap Call.receipts ++ receipts).Sublist batch.receipts ∧
    ∀ t handle, ⟨.string t, handle⟩ ∈ receipts → ∀ e ∈ entries, e.message.id = .string t →
      p.pipeline.IsSafe services e

/-- Each deletion on record was warranted when it was made. -/
def AllWarranted (calls : List Call) : Prop :=
  ∀ before url receipts reply after,
    calls = before ++ .queue (.delete url receipts) reply :: after →
    p.Warranted services before receipts

/-- What a phase builds on: a batch in hand was received last, and one that was processed has its
ledger. -/
def Stands (calls : List Call) : Phase → Prop
  | .holding batch => LastReceived calls batch []
  | .deleting batch failed => ∃ entries work, LastReceived calls batch work ∧
      p.pipeline.IsLedger services entries batch.messages work ∧
        failed.Perm (Pipeline.failedIds entries)
  | _ => True

variable {p services}

theorem AllWarranted.append {calls new : List Call} (h : p.AllWarranted services calls)
    (hnew : ∀ before url receipts reply after,
      new = before ++ .queue (.delete url receipts) reply :: after →
      p.Warranted services (calls ++ before) receipts) :
    p.AllWarranted services (calls ++ new) := by
  intro before url receipts reply after hsplit
  rcases List.append_eq_append_iff.mp hsplit with ⟨more, rfl, hmore⟩ | ⟨rest, rfl, hrest⟩
  · exact hnew more url receipts reply after hmore
  · cases rest with
    | nil => simpa using hnew [] url receipts reply after (by simpa using hrest.symm)
    | cons c rest =>
      obtain ⟨rfl, -⟩ := List.cons.inj hrest
      exact h before url receipts reply rest rfl

theorem AllWarranted.append_of_no_delete {calls new : List Call} (h : p.AllWarranted services calls)
    (hnew : ∀ c ∈ new, c.isDelete = false) : p.AllWarranted services (calls ++ new) := by
  refine h.append ?_
  rintro before url receipts reply after rfl
  exact absurd (hnew (.queue (.delete url receipts) reply) (by simp)) (by simp [Call.isDelete])

end Poller

/-! ## Deletions -/

namespace QueueSource

theorem toDelete_eq_ok {receipts chosen : List Receipt} {failed : List Json}
    (h : toDelete receipts failed = .ok chosen) :
    chosen = receipts.filter fun r => !isAmong failed r.id := by
  obtain ⟨_, -, h⟩ := exists_of_bind_eq_ok h
  obtain ⟨_, -, h⟩ := exists_of_bind_eq_ok h
  exact (Except.ok.inj h).symm

theorem checkIds_of_keys {ids : List Json} (h : ∀ id ∈ ids, (Value.ofJson id).isKey = true) :
    checkIds ids = .ok () := by
  have hnone : (ids.find? fun id => !(Value.ofJson id).isKey) = none :=
    List.find?_eq_none.mpr fun id hid => by simp [h id hid]
  rw [checkIds, hnone]

theorem toDelete_of_keys {receipts : List Receipt} {failed : List Json}
    (hfailed : ∀ id ∈ failed, (Value.ofJson id).isKey = true)
    (hreceipts : ∀ r ∈ receipts, (Value.ofJson r.id).isKey = true) :
    toDelete receipts failed = .ok (receipts.filter fun r => !isAmong failed r.id) := by
  rw [toDelete, checkIds_of_keys hfailed, checkIds_of_keys (List.forall_mem_map.mpr hreceipts)]
  rfl

/-- A text is found among the ids that failed exactly if it is one of them. -/
theorem isAmong_text_iff {failed : List Json} {t : Text} :
    isAmong failed (.string t) = true ↔ .string t ∈ failed := by
  rw [isAmong, List.any_eq_true]
  constructor
  · rintro ⟨other, hother, hsame⟩
    cases other with
    | string t' =>
      have heq : t' = t := by simpa [Value.sameKey, Value.ofJson, Value.number?] using hsame
      rwa [heq] at hother
    | _ => simp [Value.sameKey, Value.ofJson, Value.number?] at hsame
  · intro h
    exact ⟨_, h, by simp [Value.sameKey, Value.ofJson, Value.number?]⟩

theorem receipts_of_deletes {url : Json} {gs : List (List Receipt)} {deletions : List Call}
    (h : List.Forall₂ (Deletes url) gs deletions) :
    deletions.flatMap Call.receipts = gs.flatten := by
  induction h with
  | nil => rfl
  | cons hd _ ih =>
    obtain ⟨reply, rfl⟩ := hd
    simp [Call.receipts, ih]

theorem not_receive_of_deletes {url : Json} {gs : List (List Receipt)} {deletions : List Call}
    (h : List.Forall₂ (Deletes url) gs deletions) : ∀ c ∈ deletions, c.isReceive = false := by
  induction h with
  | nil => simp
  | cons hd _ ih =>
    obtain ⟨reply, rfl⟩ := hd
    rintro c (_ | ⟨_, hc⟩)
    · rfl
    · exact ih c hc

end QueueSource

namespace Poller

variable {p : Poller σ} {services : Services σ}

variable [Json.Limits]

theorem receipts_of_ledger {entries : List Pipeline.Entry} {messages : List Message}
    {calls : List Call} (h : p.pipeline.IsLedger services entries messages calls) :
    calls.flatMap Call.receipts = [] := by
  refine List.flatMap_eq_nil_iff.mpr fun c hc => ?_
  obtain ⟨-, hdelete⟩ := Pipeline.not_queue_of_ledger h hc
  unfold Call.isDelete at hdelete
  unfold Call.receipts
  split
  · cases hdelete
  · rfl

/-- The deletions for a batch that was processed are warranted one after another. -/
theorem warranted_of_deletes (hw : p.pipeline.writer.codec.IsLossless)
    {calls deletions before after : List Call}
    {batch : Received} {failed : List Json} {chosen receipts : List Receipt} {url url' : Json}
    {reply : QueueReply} (hst : p.Stands services calls (.deleting batch failed))
    (hchosen : QueueSource.toDelete batch.receipts failed = .ok chosen)
    (hall : List.Forall₂ (QueueSource.Deletes url) (QueueSource.groups chosen) deletions)
    (hsplit : deletions = before ++ .queue (.delete url' receipts) reply :: after) :
    p.Warranted services (calls ++ before) receipts := by
  obtain ⟨entries, work, hlast, hledger, hfailed⟩ := hst
  have hflat :
      before.flatMap Call.receipts ++ receipts ++ after.flatMap Call.receipts = chosen := by
    have hreceipts := QueueSource.receipts_of_deletes hall
    rw [QueueSource.flatten_groups, hsplit] at hreceipts
    simpa [Call.receipts] using hreceipts
  have hfilter := QueueSource.toDelete_eq_ok hchosen
  refine ⟨batch, entries, work, before, hlast.append ?_, hledger, ?_, ?_⟩
  · intro c hc
    exact QueueSource.not_receive_of_deletes hall c (hsplit ▸ List.mem_append_left _ hc)
  · rw [List.flatMap_append, receipts_of_ledger hledger, List.nil_append]
    have hsub : chosen.Sublist batch.receipts := hfilter ▸ List.filter_sublist
    have hpart : (before.flatMap Call.receipts ++ receipts).Sublist chosen :=
      hflat ▸ List.sublist_append_left _ _
    exact hpart.trans hsub
  · intro t handle hmem e he hid
    have hkeep : ⟨.string t, handle⟩ ∈ chosen := by
      rw [← hflat]
      simp [hmem]
    rw [hfilter, List.mem_filter] at hkeep
    -- an entry that failed would have kept its id from being chosen
    have hok : e.hasFailed = false := by
      by_contra hbad
      have hin : .string t ∈ Pipeline.failedIds entries :=
        List.mem_map.mpr ⟨e, List.mem_filter.mpr ⟨he, by simpa using hbad⟩, hid⟩
      simp [QueueSource.isAmong_text_iff.mpr (hfailed.mem_iff.mpr hin)] at hkeep
    exact Pipeline.isSafe_of_fate hw (hledger.fate e he) (by rw [hid]; rfl) hok

/-! ## Steps -/

variable (p services) in
/-- Up to here every deletion was warranted, and the next phase has what it builds on. -/
def Sound (r : Except Fault Progress × Scene (Recorded σ)) : Prop :=
  p.AllWarranted services r.2.calls ∧
    ∀ progress, r.1 = .ok progress → p.Stands services r.2.calls progress.phase

theorem sound_of_no_delete {calls new : List Call} {r : Except Fault Progress × Scene (Recorded σ)}
    (hall : p.AllWarranted services calls) (hcalls : r.2.calls = calls ++ new)
    (hnew : ∀ c ∈ new, c.isDelete = false)
    (hst : ∀ progress, r.1 = .ok progress → p.Stands services (calls ++ new) progress.phase) :
    p.Sound services r := by
  rw [Sound, hcalls]
  exact ⟨hall.append_of_no_delete hnew, hst⟩

variable {s : Scene (Recorded σ)}

omit [Json.Limits] in
theorem runOn_ask_eq (q : Poller σ) (services : Services σ) (batches : Nat) (s : Scene σ) :
    (q.ask services batches).runOn s =
      match (tolerate (q.source.receive services) "pull failed").runOn s with
      | (.error fault, s') => (.error fault, s')
      | (.ok none, s') => (.ok ⟨.resting, batches⟩, s')
      | (.ok (some batch), s') =>
        (.ok (if batch.messages.isEmpty then ⟨.resting, batches⟩
          else ⟨.holding batch, batches + 1⟩), s') := by
  rw [ask, Act.runOn_bind]
  rcases (tolerate (q.source.receive services) "pull failed").runOn s with ⟨fault | _ | batch, s'⟩
  · rfl
  · rfl
  · cases hempty : batch.messages.isEmpty <;> simp [hempty]

theorem ask_sound (batches : Nat) (hall : p.AllWarranted services s.calls) :
    p.Sound services ((p.recorded.ask services.recorded batches).runOn s) := by
  obtain ⟨reply, hanswer, hcalls⟩ := QueueSource.receive_calls services p.source s
  obtain ⟨htolerated, hsome⟩ := tolerate_calls (p.source.receive services.recorded) "pull failed" s
  rw [hcalls] at htolerated
  rw [hanswer] at hsome
  have hquiet :
      ∀ c ∈ [Call.queue (.receive p.source.url QueueSource.callLimit p.source.wait) reply],
        c.isDelete = false := by
    simp [Call.isDelete]
  rw [runOn_ask_eq, recorded_source]
  rcases hr : (tolerate (p.source.receive services.recorded) "pull failed").runOn s with
    ⟨fault | _ | batch, s'⟩ <;>
    rw [hr] at htolerated hsome
  · exact sound_of_no_delete hall htolerated hquiet fun progress h => by cases h
  · refine sound_of_no_delete hall htolerated hquiet ?_
    rintro progress ⟨⟩
    trivial
  · refine sound_of_no_delete hall htolerated hquiet ?_
    rintro progress ⟨⟩
    have hreceived : LastReceived
        (s.calls ++ [.queue (.receive p.source.url QueueSource.callLimit p.source.wait) reply])
        batch [] := ⟨s.calls, _, reply, rfl, rfl, hsome batch rfl, by simp⟩
    cases hempty : batch.messages.isEmpty with
    | true => trivial
    | false => exact hreceived

theorem holding_sound {batch : Received} (batches : Nat) (hall : p.AllWarranted services s.calls)
    (hlast : LastReceived s.calls batch []) :
    p.Sound services ((p.recorded.step services.recorded ⟨.holding batch, batches⟩).runOn s) := by
  show p.Sound services
    ((p.pipeline.recorded.process services.recorded batch.messages >>= fun result =>
    pure (Progress.mk (.deleting batch (result.report.getD [])) batches)).runOn s)
  rw [Act.runOn_bind]
  rcases hrun : (p.pipeline.recorded.process services.recorded batch.messages).runOn s with
    ⟨fault | result, s'⟩
  · obtain ⟨new, tickets, hcalls, haccounts, -⟩ := p.pipeline.process_unfinished services hrun
    exact sound_of_no_delete hall hcalls
      (fun c hc => (Pipeline.isWork_of_accounts haccounts hc).not_queue.2)
      fun progress h => by cases h
  · obtain ⟨entries, calls, hcalls, hledger, hids, hreport⟩ :=
      p.pipeline.process_ledger services hrun
    refine sound_of_no_delete hall hcalls
      (fun c hc => (Pipeline.not_queue_of_ledger hledger hc).2) ?_
    rintro progress ⟨⟩
    refine ⟨entries, calls, ?_, hledger, ?_⟩
    · exact hlast.append fun c hc => (Pipeline.not_queue_of_ledger hledger hc).1
    · rw [hreport, Failures.getD_report]
      exact hids

theorem deleting_sound (hw : p.pipeline.writer.codec.IsLossless) {batch : Received}
    {failed : List Json} (batches : Nat) (hall : p.AllWarranted services s.calls)
    (hst : p.Stands services s.calls (.deleting batch failed)) :
    p.Sound services
      ((p.recorded.step services.recorded ⟨.deleting batch failed, batches⟩).runOn s) := by
  show p.Sound services
    ((tolerate (p.source.acknowledge services.recorded batch failed) "failed to ack messages" >>=
    fun _ => pure (Progress.mk .counting batches)).runOn s)
  obtain ⟨htolerated, -⟩ :=
    tolerate_calls (p.source.acknowledge services.recorded batch failed) "failed to ack messages" s
  have hall' : p.AllWarranted services
      ((tolerate (p.source.acknowledge services.recorded batch failed)
        "failed to ack messages").runOn s).2.calls := by
    rw [htolerated]
    rcases QueueSource.acknowledge_calls services p.source s batch failed with
      hcalls | ⟨chosen, deletions, hchosen, hcalls, hdeletes⟩
    · rwa [hcalls]
    · rw [hcalls]
      exact hall.append fun before url receipts reply after hsplit =>
        warranted_of_deletes hw hst hchosen hdeletes hsplit
  rw [Act.runOn_bind]
  rcases hr : (tolerate (p.source.acknowledge services.recorded batch failed)
      "failed to ack messages").runOn s with
    ⟨fault | _, s'⟩ <;> rw [hr] at hall'
  · exact ⟨hall', fun progress h => by cases h⟩
  · exact ⟨hall', fun progress h => by cases h; trivial⟩

theorem counting_sound (batches : Nat) (hall : p.AllWarranted services s.calls) :
    p.Sound services ((p.recorded.step services.recorded ⟨.counting, batches⟩).runOn s) := by
  show p.Sound services ((p.recorded.tellBacklog services.recorded >>= fun _ =>
    pure (Progress.mk .asking batches)).runOn s)
  obtain ⟨reply, hcalls⟩ := tellBacklog_calls p.recorded services s
  have hquiet : ∀ c ∈ [Call.queue (.countBacklog p.source.url) reply], c.isDelete = false := by
    simp [Call.isDelete]
  rw [Act.runOn_bind]
  rcases hr : (p.recorded.tellBacklog services.recorded).runOn s with ⟨fault | _, s'⟩ <;>
    rw [hr] at hcalls
  · exact sound_of_no_delete hall hcalls hquiet fun progress h => by cases h
  · exact sound_of_no_delete hall hcalls hquiet fun progress h => by cases h; trivial

theorem asking_sound (batches : Nat) (hall : p.AllWarranted services s.calls) :
    p.Sound services ((p.recorded.step services.recorded ⟨.asking, batches⟩).runOn s) := by
  show p.Sound services ((get >>= fun scene : Scene (Recorded σ) =>
    if !scene.polling || p.recorded.isSated batches then finish batches
    else p.recorded.ask services.recorded batches).runOn s)
  rw [Act.runOn_bind_of_ok (Act.runOn_get s)]
  split
  · exact ⟨hall, fun progress h => by cases h; trivial⟩
  · exact ask_sound batches hall

/-- The step lemma: whatever phase a poller is in, its next step leaves every deletion warranted. -/
theorem step_sound (hw : p.pipeline.writer.codec.IsLossless) {progress : Progress}
    (hall : p.AllWarranted services s.calls) (hst : p.Stands services s.calls progress.phase) :
    p.Sound services ((p.recorded.step services.recorded progress).runOn s) := by
  obtain ⟨phase, batches⟩ := progress
  cases phase with
  | asking => exact asking_sound batches hall
  | holding batch => exact holding_sound batches hall hst
  | deleting batch failed => exact deleting_sound hw batches hall hst
  | counting => exact counting_sound batches hall
  | resting => exact ⟨hall, fun progress h => by cases h; trivial⟩
  | ended => exact ⟨hall, fun progress h => by cases h; trivial⟩

/-- The run lemma. -/
theorem steps_sound (hw : p.pipeline.writer.codec.IsLossless) (n : Nat) {progress : Progress}
    (hall : p.AllWarranted services s.calls) (hst : p.Stands services s.calls progress.phase) :
    p.Sound services ((p.recorded.steps services.recorded n progress).runOn s) := by
  induction n generalizing s progress with
  | zero => exact ⟨hall, fun progress h => by cases h; exact hst⟩
  | succ n ih =>
    unfold steps
    split
    · exact ⟨hall, fun progress h => by cases h; exact hst⟩
    · obtain ⟨hall', hst'⟩ := step_sound hw hall hst
      rw [Act.runOn_bind]
      rcases hr : (p.recorded.step services.recorded progress).runOn s with ⟨fault | next, s'⟩ <;>
        rw [hr] at hall' hst'
      · exact ⟨hall', fun progress h => by cases h⟩
      · exact ih hall' (hst' next rfl)

/-- In a run every deletion is warranted. -/
theorem allWarranted_calls (hw : p.pipeline.writer.codec.IsLossless) (n : Nat) (scene : Scene σ) :
    p.AllWarranted services (p.calls services n scene) := by
  obtain ⟨s, hbegin, hcalls⟩ :
      ∃ s, p.recorded.begin.runOn (scene.recording []) = (.ok fresh, s) ∧ s.calls = [] :=
    ⟨_, rfl, rfl⟩
  have hnone : p.AllWarranted services s.calls := by
    intro before url receipts reply after h
    simp [hcalls] at h
  have hfresh : p.Stands services s.calls fresh.phase := trivial
  rw [calls, run, Act.runOn_bind_of_ok hbegin]
  exact (steps_sound hw n hnone hfresh).1

end Poller

/-! ## Plain replies -/

/-- A record as the queue promises it: two texts, and no member of the other transport. -/
def IsPlainRecord (record : Json) : Prop :=
  ∃ members id handle, record = .object members ∧
    Json.find? members "MessageId" = some (.string id) ∧
    Json.find? members "ReceiptHandle" = some (.string handle) ∧
      Json.find? members "messageId" = none ∧
    Json.find? members "body" = none

/-- A reply to a call for messages as the queue promises it: a fault, or an object with plain
records, if any. -/
def QueueReply.IsPlain (reply : QueueReply) : Prop :=
  ∀ answer, reply.answer = .ok answer → ∃ members, answer = .object members ∧
    (Json.find? members "Messages" = none ∨
      ∃ records, Json.find? members "Messages" = some (.array records) ∧
        ∀ record ∈ records, IsPlainRecord record)

namespace QueueSource

theorem receiptOf_plain {record : Json} (h : IsPlainRecord record) :
    ∃ t handle body, receiptOf record = .ok ⟨.string t, .string handle⟩ ∧
      Message.ofRecord record = .ok ⟨.string t, body⟩ := by
  obtain ⟨members, id, handle, rfl, hid, hhandle, hother, hbody⟩ := h
  refine ⟨id, handle, (Json.find? members "Body").getD .null, ?_, ?_⟩
  · simp [receiptOf, Json.demand, hid, hhandle, bind, Except.bind, pure, Except.pure]
  · simp [Message.ofRecord, Message.field, Json.member?, hid, hother, hbody, bind, Except.bind,
      pure, Except.pure]

theorem mapM_plain {records : List Json} (h : ∀ record ∈ records, IsPlainRecord record)
    {both : List (Receipt × Message)}
    (hboth : (records.mapM fun m => do return (← receiptOf m, ← Message.ofRecord m)) = .ok both) :
    ∀ x ∈ both, ∃ t, x.1.id = .string t ∧ x.2.id = .string t := by
  induction records generalizing both with
  | nil =>
    cases hboth
    simp
  | cons record records ih =>
    obtain ⟨t, handle, body, hreceipt, hmessage⟩ := receiptOf_plain (h record List.mem_cons_self)
    rw [List.mapM_cons, hreceipt, hmessage] at hboth
    obtain ⟨first, hfirst, hboth⟩ := exists_of_bind_eq_ok hboth
    obtain ⟨rest, hrest, hboth⟩ := exists_of_bind_eq_ok hboth
    cases hfirst
    cases hboth
    rintro x (_ | ⟨_, hx⟩)
    · exact ⟨t, rfl, rfl⟩
    · exact ih (fun r hr => h r (List.mem_cons_of_mem _ hr)) hrest x hx

/-- The messages of a plain reply have the ids of their receipts, and these are texts. -/
theorem batchOf_plain {reply : QueueReply} {batch : Received} (h : reply.IsPlain)
    (hbatch : reply.answer.bind batchOf = .ok batch) :
    batch.messages.map (·.id) = batch.receipts.map (·.id) ∧
      ∀ r ∈ batch.receipts, ∃ t, r.id = .string t := by
  obtain ⟨answer, hanswer, hread⟩ := exists_of_bind_eq_ok hbatch
  obtain ⟨members, rfl, hrecords⟩ := h answer hanswer
  rw [batchOf] at hread
  obtain ⟨found, hfound, hrest⟩ := exists_of_bind_eq_ok hread
  obtain ⟨records, hparts, hpairs⟩ := exists_of_bind_eq_ok hrest
  obtain ⟨both, hboth, hpure⟩ := exists_of_bind_eq_ok hpairs
  cases hfound
  cases hpure
  have hplain : ∀ record ∈ records, IsPlainRecord record := by
    rcases hrecords with hnone | ⟨some, hsome, hplain⟩
    · rw [hnone] at hparts
      cases hparts
      simp
    · rw [hsome] at hparts
      cases hparts
      exact hplain
  have hids := mapM_plain hplain hboth
  refine ⟨?_, ?_⟩
  · simp only [List.map_map]
    refine List.map_congr_left fun x hx => ?_
    obtain ⟨t, hreceipt, hmessage⟩ := hids x hx
    exact hmessage.trans hreceipt.symm
  · intro r hr
    obtain ⟨x, hx, rfl⟩ := List.mem_map.mp hr
    obtain ⟨t, hreceipt, -⟩ := hids x hx
    exact ⟨t, hreceipt⟩

end QueueSource

/-! ## Runs -/

namespace Poller

/--
**No request is lost through a poller.**

Take any deletion that a run has called for, however the run ended. Before it a batch was received,
and nothing since then. All receipts handed over since then, these included, are receipts of that
batch, none of them twice. What the batch was processed with stands on record right behind it, with
a ledger of its messages; and every message with the id of one of these receipts is safe: it brought
nothing new, or its own data was taken by the object store.
-/
theorem deleted_only_when_safe [Json.Limits] {p : Poller σ} {services : Services σ}
    (hw : p.pipeline.writer.codec.IsLossless) {n : Nat}
    {scene : Scene σ} (hplain : ∀ call reply, Call.queue call reply ∈ p.calls services n scene →
      (Call.queue call reply).isReceive = true → reply.IsPlain)
    {before after : List Call} {url : Json} {receipts : List Receipt} {reply : QueueReply}
    (h : p.calls services n scene = before ++ .queue (.delete url receipts) reply :: after) :
    ∃ earlier call answer since batch work entries,
      before = earlier ++ .queue call answer :: since ∧
      (Call.queue call answer).isReceive = true ∧ (∀ c ∈ since, c.isReceive = false) ∧
      answer.answer.bind QueueSource.batchOf = .ok batch ∧
      batch.messages.map (·.id) = batch.receipts.map (·.id) ∧
      (since.flatMap Call.receipts ++ receipts).Sublist batch.receipts ∧
      work <+: since ∧ p.pipeline.IsLedger services entries batch.messages work ∧
      ∀ r ∈ receipts, ∀ e ∈ entries, e.message.id = r.id → p.pipeline.IsSafe services e := by
  obtain ⟨batch, entries, work, deletions,
    ⟨earlier, call, answer, hbefore, hreceive, hbatch, hsince⟩, hledger, hsub,
    hsafe⟩ := allWarranted_calls hw n scene before url receipts reply after h
  have hmem : Call.queue call answer ∈ p.calls services n scene := by simp [h, hbefore]
  obtain ⟨hids, htexts⟩ := QueueSource.batchOf_plain (hplain call answer hmem hreceive) hbatch
  refine ⟨earlier, call, answer, work ++ deletions, batch, work, entries, hbefore, hreceive, hsince,
    hbatch, hids, hsub, List.prefix_append _ _, hledger, ?_⟩
  intro r hr e he hid
  obtain ⟨t, ht⟩ := htexts r (hsub.subset (List.mem_append_right _ hr))
  exact hsafe t r.handle (by rwa [← ht]) e he (hid.trans ht)

attribute [local instance] Platform.builtIn

/-- The reply to a call for messages with a request and a message that breaks off. -/
def shelfReply : QueueReply where
  answer := .ok (.object [("Messages", .array [
    .object [("MessageId", .string "m1"), ("ReceiptHandle", .string "r1"),
      ("Body", (Shelf.request "m1" "ok").body)],
    .object [("MessageId", .string "m2"), ("ReceiptHandle", .string "r2"),
      ("Body", .string "\x7b")]])])
  stop := false

/-- The poller on a shelf, for one batch. -/
def shelfPoller : Poller Shelf := ⟨Shelf.pipeline none, ⟨"q", .string "url", 0⟩, some 1⟩

theorem shelfReply_isPlain : shelfReply.IsPlain := by
  rintro answer ⟨⟩
  refine ⟨_, rfl, Or.inr ⟨_, rfl, ?_⟩⟩
  intro record hrecord
  simp only [List.mem_cons, List.not_mem_nil, or_false] at hrecord
  rcases hrecord with rfl | rfl
  · exact ⟨_, _, _, rfl, rfl, rfl, rfl, rfl⟩
  · exact ⟨_, _, _, rfl, rfl, rfl, rfl, rfl⟩

/-- Of the two messages the request alone is deleted, and its logs are safe. -/
theorem request_deleted_when_safe :
    ∃ before reply after, shelfPoller.calls Shelf.services 9 (.start (.empty [shelfReply])) =
        before ++ .queue (.delete (.string "url") [⟨.string "m1", .string "r1"⟩]) reply :: after ∧
      ∃ work entries batch, work <:+: before ∧
        shelfPoller.pipeline.IsLedger Shelf.services entries batch work ∧
        ∀ e ∈ entries, e.message.id = .string "m1" →
          shelfPoller.pipeline.IsSafe Shelf.services e := by
  have hreceives :
    (shelfPoller.calls Shelf.services 9 (.start (.empty [shelfReply]))).filter Call.isReceive =
      [.queue (.receive (.string "url") 10 0) shelfReply] := by cbv
  have hdeletes :
    (shelfPoller.calls Shelf.services 9 (.start (.empty [shelfReply]))).filter Call.isDelete =
      [.queue (.delete (.string "url") [⟨.string "m1", .string "r1"⟩])
        ⟨.ok (.object []), false⟩] := by cbv
  have hplain : ∀ call reply,
      Call.queue call reply ∈ shelfPoller.calls Shelf.services 9 (.start (.empty [shelfReply])) →
      (Call.queue call reply).isReceive = true → reply.IsPlain := by
    intro call reply hmem hreceive
    have hin := List.mem_filter.mpr ⟨hmem, hreceive⟩
    rw [hreceives] at hin
    cases List.mem_singleton.mp hin
    exact shelfReply_isPlain
  obtain ⟨before, after, hsplit⟩ :=
    List.append_of_mem (List.mem_filter.mp (hdeletes ▸ List.mem_cons_self)).1
  obtain ⟨earlier, call, answer, since, batch, work, entries, hbefore, -, -, -, -, -, ⟨rest, hrest⟩,
    hledger, hsafe⟩ :=
    deleted_only_when_safe Codec.isLossless_stored hplain hsplit
  refine ⟨before, _, after, hsplit, work, entries, batch.messages, ?_, hledger, ?_⟩
  · exact ⟨earlier ++ [.queue call answer], rest, by simp [hbefore, ← hrest]⟩
  · intro e he hid
    exact hsafe _ List.mem_cons_self e he hid

end Poller

end LogHarvest
