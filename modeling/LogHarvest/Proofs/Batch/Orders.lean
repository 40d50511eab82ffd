import LogHarvest.Proofs.Batch.Runs

/-!
# Batches without orders

An order to end the program halts a batch. Orders come from the connectors, the codec and the object
store, and from nowhere else: where none of these gives one (`Pipeline.IsUninterrupted`), nobody on
the floor is ever told to end the program, and a batch whose messages are all judged comes to a
result.
-/

namespace LogHarvest

variable {σ α β : Type}

/-- The answer is no order to end the program. -/
def NoOrder (answer : Except Fault α) : Prop :=
  ∀ fault, answer = .error fault → fault.isInterrupt = false

theorem noOrder_ok (a : α) : NoOrder (.ok a : Except Fault α) := fun _ h => nomatch h

namespace Act

/-- The activity never ends in an order. -/
def GivesNoOrder (act : Act σ α) : Prop := ∀ s, NoOrder (act.runOn s).1

namespace GivesNoOrder

theorem pure (a : α) : (Pure.pure a : Act σ α).GivesNoOrder := fun _ => noOrder_ok a

theorem note (level : Level) (topic : Topic) (text : Text) :
    (Act.note level topic text : Act σ Unit).GivesNoOrder := fun _ => noOrder_ok ()

theorem ask (question : StateM σ α) : (Act.ask question).GivesNoOrder := fun _ => noOrder_ok _

theorem liftExcept {e : Except Fault α} (h : NoOrder e) : (liftM e : Act σ α).GivesNoOrder := by
  intro s
  rw [runOn_liftM_except]
  exact h

theorem bind {act : Act σ α} {next : α → Act σ β} (h : act.GivesNoOrder)
    (hnext : ∀ a, (next a).GivesNoOrder) : (act >>= next).GivesNoOrder := by
  intro s
  have hact := h s
  rw [runOn_bind]
  generalize act.runOn s = r at hact ⊢
  rcases r with ⟨fault | a, s'⟩
  · rintro _ ⟨⟩
    exact hact fault rfl
  · exact hnext a s'

theorem demand {question : StateM σ (Except Fault α)}
    (h : ∀ outside, NoOrder (question.run outside).1) : (Act.demand question).GivesNoOrder := by
  intro s
  rw [runOn_demand]
  exact h s.outside

end GivesNoOrder

end Act

namespace ArchiveWriter

open Act

variable {w : ArchiveWriter} {services : Services σ}
  (hcompress : ∀ data, NoOrder (w.codec.compress data))
  (hstore : ∀ object outside, NoOrder ((services.store object).run outside).1)

include hcompress hstore

theorem givesNoOrder_archiveAs (source key : Text) (data : Bytes) :
    (w.archiveAs services source key data).GivesNoOrder := by
  have hput : (w.put services key data).GivesNoOrder :=
    .bind (.liftExcept (hcompress data)) fun body => .demand (hstore _)
  intro s
  have hs := hput s
  rw [archiveAs, runOn_bind, runOn_attempt]
  generalize (w.put services key data).runOn s = r at hs ⊢
  rcases r with ⟨fault | _, s'⟩
  · dsimp only
    cases errorLine? key fault with
    | none =>
      rintro _ ⟨⟩
      exact hs fault rfl
    | some line => exact noOrder_ok _
  · exact noOrder_ok _

theorem givesNoOrder_archive (data : Bytes) (source : Text) :
    (w.archive services data source).GivesNoOrder := by
  unfold archive
  split
  · exact .bind (.note _ _ _) fun _ => .pure _
  · refine .bind (.note _ _ _) fun _ => .bind (.bind (.ask _) fun _ => .pure _) fun key => ?_
    exact .bind (.note _ _ _) fun _ => givesNoOrder_archiveAs hcompress hstore source key data

end ArchiveWriter

namespace Pipeline

open Floor

/-- No order to end the program comes from the connectors, the codec or the object store. -/
structure IsUninterrupted (p : Pipeline σ) (services : Services σ) : Prop where
  pull : ∀ type connector route s, p.connectors.find type = .ok connector →
    NoOrder ((connector.pull route).run s).1.answer
  compress : ∀ data, NoOrder (p.writer.codec.compress data)
  store : ∀ object outside, NoOrder ((services.store object).run outside).1

namespace IsUninterrupted

variable {p : Pipeline σ} {services : Services σ} (h : p.IsUninterrupted services)

include h

theorem begin (task : Task) (s : Scene σ) : NoOrder ((p.begin task).run s).1.answer := by
  unfold Pipeline.begin
  cases hfind : p.connectors.find task.route.type with
  | ok connector => exact h.pull _ connector task.route s hfind
  | error fault =>
    rw [Registry.find] at hfind
    split at hfind
    · cases hfind
    · cases hfind
      rintro _ ⟨⟩
      rfl

theorem settle (data : Bytes) (source : Text) (s : Scene σ) :
    ((p.settle services data source).run s).1.hasOrder = false := by
  have harchive := ArchiveWriter.givesNoOrder_archive h.compress h.store data source s
  show (afterArchive source ((p.writer.archive services data source).runOn s).1).hasOrder = false
  cases hr : ((p.writer.archive services data source).runOn s).1 with
  | ok outcome => rfl
  | error fault =>
    have hfault := harchive fault hr
    simp [afterArchive, afterFault, hfault, Stage.hasOrder]

/-- The step lemma: nobody is told to end the program. -/
theorem move {f : Floor} (hf : f.IsSpared) {i : Nat} {t : Ticket} (ht : f.tickets[i]? = some t)
    (s : Scene σ) : ((p.move services f i t).run s).1.IsSpared := by
  unfold Pipeline.move
  cases hs : t.stage with
  | waiting =>
    refine isSpared_of_modify hf rfl fun t' _ => ?_
    have hanswer := h.begin t.task s
    show (Stage.pulling ((p.begin t.task).run s).1.answer).hasOrder = false
    cases ha : ((p.begin t.task).run s).1.answer with
    | ok data => rfl
    | error fault => exact hanswer fault ha
  | pulling answer =>
    refine isSpared_of_modify hf rfl fun t' _ => hasOrder_afterPull _ ?_
    rw [← hs]
    exact hf t (List.mem_of_getElem? ht)
  | archiving data =>
    exact isSpared_of_modify hf rfl fun t' _ => h.settle data t.task.source s
  | settled outcome => exact isSpared_of_modify hf rfl fun _ _ => rfl
  | released outcome => exact isSpared_of_modify hf rfl fun _ _ => rfl
  | done _ | halted _ => exact hf

/-- The run lemma. -/
theorem run (tasks : List Task) (permits : Option Nat) (refused : Failures) (s : Scene σ) :
    ((p.run services (start tasks permits refused)).run s).1.order? = none := by
  refine IsSpared.order? ?_
  exact p.moves_keeps services (P := fun f _ => f.IsSpared)
    (fun f i t s ht hf => h.move hf ht s) _ (isSpared_start tasks permits refused)

variable [Json.Limits]

/-- A batch whose messages are all judged comes to a result. -/
theorem process {messages : List Message} {verdicts : List Verdict} {free : Option Nat}
    (hjudged : Verdict.Judged p.routing messages verdicts)
    (hfree : permits (verdicts.filterMap Verdict.task?) p.cap = .ok free) {scene after : Scene σ}
    {floor : Floor}
    (hrun : (p.run services (dispatch verdicts free)).run (scene.write (opening verdicts)) =
      (floor, after)) :
    (p.process services messages).runOn scene =
      (.ok ⟨floor.failures.report, verdicts.filterMap Verdict.failure?, floor⟩,
        after.write (closing floor)) := by
  have ho := h.run (verdicts.filterMap Verdict.task?) free (verdicts.filterMap Verdict.failure?)
    (scene.write (opening verdicts))
  rw [dispatch] at hrun
  rw [hrun] at ho
  exact p.process_of_judged services hjudged hfree hrun ho

end IsUninterrupted

end Pipeline

end LogHarvest
