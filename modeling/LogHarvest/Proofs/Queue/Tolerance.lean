import LogHarvest.Proofs.Queue.Rounds

/-!
# What a poller puts up with

A poller puts up with every fault but an order to end the program, and no such order comes from
looking into an answer. So the poller goes on whatever the queue answers, as long as no call of the
queue fails with such an order.
-/

namespace LogHarvest

variable {σ α β : Type}

/-- The fault, if there is one, is no order to end the program. -/
def Tolerable (e : Except Fault α) : Prop := ∀ fault, e = .error fault → fault.isInterrupt = false

theorem tolerable_ok (a : α) : Tolerable (.ok a) := fun _ h => (by cases h)

theorem tolerable_error {fault : Fault} (h : fault.isInterrupt = false) :
    Tolerable (.error fault : Except Fault α) := by
  rintro _ ⟨⟩
  exact h

theorem Tolerable.bind {e : Except Fault α} {next : α → Except Fault β} (h : Tolerable e)
    (hnext : ∀ a, Tolerable (next a)) : Tolerable (e >>= next) := by
  cases e with
  | ok a => exact hnext a
  | error fault => exact tolerable_error (h fault rfl)

theorem Tolerable.mapM {f : α → Except Fault β} (h : ∀ a, Tolerable (f a)) (as : List α) :
    Tolerable (as.mapM f) := by
  induction as with
  | nil => exact tolerable_ok _
  | cons a as ih =>
    rw [List.mapM_cons]
    exact (h a).bind fun b => ih.bind fun bs => tolerable_ok _

/-- No call of the queue failed with an order to end the program. -/
def AllTolerable (calls : List Call) : Prop :=
  ∀ call reply, .queue call reply ∈ calls → Tolerable reply.answer

/-! ## Looking into answers -/

namespace Json

theorem tolerable_demand (v : Json) (name : String) : Tolerable (v.demand name) := by
  unfold demand
  split
  · split
    · exact tolerable_ok _
    · exact tolerable_error rfl
  all_goals exact tolerable_error rfl

theorem tolerable_member? (v : Json) (name : String) : Tolerable (v.member? name) := by
  unfold member?
  split
  · exact tolerable_ok _
  · exact tolerable_error rfl

theorem tolerable_parts (v : Json) : Tolerable v.parts := by
  unfold parts
  split
  all_goals first | exact tolerable_ok _ | exact tolerable_error rfl

theorem tolerable_mentions (v : Json) (name : String) : Tolerable (v.mentions name) := by
  unfold mentions
  split
  all_goals first | exact tolerable_ok _ | exact tolerable_error rfl

theorem tolerable_toInteger (v : Json) : Tolerable v.toInteger := by
  unfold toInteger
  split
  · exact tolerable_ok _
  · exact tolerable_ok _
  · next t =>
    cases Integer.read t with
    | ok n => exact tolerable_ok n
    | error fault => exact tolerable_error rfl
  · split
    · exact tolerable_ok _
    · exact tolerable_error rfl
  · exact tolerable_error rfl

end Json

theorem Message.tolerable_ofRecord (record : Json) : Tolerable (Message.ofRecord record) := by
  have hfield : ∀ first second, Tolerable (Message.field record first second) := fun first second =>
    (record.tolerable_member? first).bind fun _ =>
      (record.tolerable_member? second).bind fun _ => tolerable_ok _
  exact (hfield _ _).bind fun _ => (hfield _ _).bind fun _ => tolerable_ok _

namespace QueueSource

theorem tolerable_batchOf (answer : Json) : Tolerable (batchOf answer) := by
  have hreceipt : ∀ m, Tolerable (receiptOf m) := fun m =>
    (m.tolerable_demand _).bind fun _ => (m.tolerable_demand _).bind fun _ => tolerable_ok _
  refine (answer.tolerable_member? _).bind fun messages? => (Json.tolerable_parts _).bind fun ms =>
    (Tolerable.mapM (fun m => ?_) ms).bind fun both => tolerable_ok _
  exact (hreceipt m).bind fun _ => (Message.tolerable_ofRecord m).bind fun _ => tolerable_ok _

theorem tolerable_checkIds (ids : List Json) : Tolerable (checkIds ids) := by
  unfold checkIds
  split
  · exact tolerable_ok _
  · exact tolerable_error rfl

theorem tolerable_toDelete (receipts : List Receipt) (failed : List Json) :
    Tolerable (toDelete receipts failed) :=
  (tolerable_checkIds _).bind fun _ => (tolerable_checkIds _).bind fun _ => tolerable_ok _

theorem tolerable_backlogOf (answer : Json) : Tolerable (backlogOf answer) := by
  refine (answer.tolerable_demand _).bind fun counts =>
    (counts.tolerable_mentions _).bind fun mentioned => ?_
  cases mentioned with
  | true => exact (counts.tolerable_demand _).bind Json.tolerable_toInteger
  | false => exact tolerable_ok _

theorem tolerable_deletionFault? (answer : Json) : Tolerable (deletionFault? answer) := by
  refine (answer.tolerable_member? _).bind fun failed? => ?_
  cases failed? <;> exact tolerable_ok _

/-- What names the messages that were not deleted is no order to end the program. -/
theorem isInterrupt_of_deletionFault? {answer : Json} {fault : Fault}
    (h : deletionFault? answer = .ok (some fault)) : fault.isInterrupt = false := by
  obtain ⟨failed?, -, hfault⟩ := exists_of_bind_eq_ok h
  cases failed? with
  | none => cases hfault
  | some failed =>
    cases htruthy : failed.isTruthy <;> simp only [htruthy] at hfault <;> cases hfault
    rfl

theorem isInterrupt_of_deletionFaultOf {reply : QueueReply} (hreply : Tolerable reply.answer)
    {fault : Fault} (h : deletionFaultOf reply = some fault) : fault.isInterrupt = false := by
  have hanswer : Tolerable (reply.answer.bind deletionFault?) :=
    hreply.bind tolerable_deletionFault?
  rw [deletionFaultOf] at h
  cases hresult : reply.answer.bind deletionFault? with
  | error fault' =>
    rw [hresult] at h
    cases h
    exact hanswer _ hresult
  | ok fault? =>
    rw [hresult] at h
    obtain ⟨answer, -, hfault⟩ := exists_of_bind_eq_ok hresult
    subst h
    exact isInterrupt_of_deletionFault? hfault

section Replies

variable (services : Services σ) (q : QueueSource) {s : Scene (Recorded σ)}

/-- A deletion is put up with if every call for it is. -/
theorem tolerable_acknowledge {batch : Received} {failed : List Json}
    (h : AllTolerable ((acknowledge services.recorded q batch failed).runOn s).2.calls) :
    Tolerable ((acknowledge services.recorded q batch failed).runOn s).1 := by
  cases hreceipts : toDelete batch.receipts failed with
  | error fault =>
    rw [acknowledge, hreceipts, Act.runOn_bind_of_error (Act.runOn_liftM_error ..)]
    exact tolerable_error (tolerable_toDelete _ _ fault hreceipts)
  | ok receipts =>
    obtain ⟨answered, -, hresult, hcalls⟩ := acknowledge_answered services q s hreceipts
    rw [hresult]
    intro fault hfault
    have hsome : (answered.findSome? fun g => deletionFaultOf g.2) = some fault := by
      cases hfirst : answered.findSome? fun g => deletionFaultOf g.2 with
      | none => rw [hfirst] at hfault; cases hfault
      | some fault' => rw [hfirst] at hfault; cases hfault; rfl
    obtain ⟨g, hg, hreply⟩ := List.exists_of_findSome?_eq_some hsome
    refine isInterrupt_of_deletionFaultOf (h (.delete q.url g.1) g.2 ?_) hreply
    rw [hcalls]
    exact List.mem_append_right _ (List.mem_map_of_mem hg)

end Replies

end QueueSource

namespace Poller

/-- What is put up with is told, and nothing comes of it. -/
theorem tolerate_of_tolerable {act : Act σ α} {s : Scene σ} (h : Tolerable (act.runOn s).1)
    (complaint : String) :
    ((tolerate act complaint).runOn s).1 = .ok (act.runOn s).1.toOption := by
  rw [tolerate, Act.runOn_bind_of_ok (Act.runOn_attempt ..)]
  rcases hr : act.runOn s with ⟨fault | a, s'⟩
  · have hi : fault.isInterrupt = false := h fault (by rw [hr])
    simp [hi, Except.toOption, Except.map]
  · rfl

theorem tellBacklog_of_tolerable {p : Poller σ} {services : Services σ} {s : Scene σ}
    (h : Tolerable ((p.source.backlog services).runOn s).1) :
    ((p.tellBacklog services).runOn s).1 = .ok () := by
  have htolerated := tolerate_of_tolerable h "failed to read queue backlog"
  rw [tellBacklog, Act.runOn_bind_of_ok (Prod.ext htolerated rfl)]
  cases ((p.source.backlog services).runOn s).1.toOption <;> rfl

end Poller

end LogHarvest
