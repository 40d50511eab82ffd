import LogHarvest.Batch.Pipeline
import LogHarvest.Proofs.Activity

/-!
# Programs that agree

Two programs agree along a relation of their scenes if from related scenes they come to the same
result, and to related scenes again. Agreement is put together like the programs are: what the
services outside and the connectors promise is enough for a whole batch.
-/

namespace LogHarvest

variable {σ τ α β : Type}

/-- Same result, and related scenes again. -/
def Agree (R : Scene σ → Scene τ → Prop) (m : StateM (Scene σ) α)
    (m' : StateM (Scene τ) α) : Prop :=
  ∀ ⦃s s'⦄, R s s' → (m.run s).1 = (m'.run s').1 ∧ R (m.run s).2 (m'.run s').2

variable {R : Scene σ → Scene τ → Prop}

namespace Agree

theorem pure (a : α) : Agree R (pure a) (pure a) := fun _ _ h => ⟨rfl, h⟩

theorem bind {m : StateM (Scene σ) α} {m' : StateM (Scene τ) α} (hm : Agree R m m')
    {next : α → StateM (Scene σ) β} {next' : α → StateM (Scene τ) β}
    (hnext : ∀ a, Agree R (next a) (next' a)) :
    Agree R (m >>= next) (m' >>= next') := by
  intro s s' h
  obtain ⟨ha, hs⟩ := hm h
  have hrest := hnext (m.run s).1 hs
  have hrun : (m' >>= next').run s' = (next' (m.run s).1).run (m'.run s').2 := by
    rw [ha]
    rfl
  rw [hrun]
  exact hrest

end Agree

/-- Agreement of activities that may fail. -/
def Act.Agrees (R : Scene σ → Scene τ → Prop) (act : Act σ α) (act' : Act τ α) : Prop :=
  Agree R act.run act'.run

namespace Act.Agrees

theorem runOn {act : Act σ α} {act' : Act τ α} (h : Agrees R act act') {s : Scene σ} {s' : Scene τ}
    (hs : R s s') : (act.runOn s).1 = (act'.runOn s').1 ∧
      R (act.runOn s).2 (act'.runOn s').2 := h hs

theorem of_runOn {act : Act σ α} {act' : Act τ α}
    (h : ∀ ⦃s s'⦄, R s s' → (act.runOn s).1 = (act'.runOn s').1 ∧
      R (act.runOn s).2 (act'.runOn s').2) :
    Agrees R act act' := h

theorem pure (a : α) : Agrees R (Pure.pure a) (Pure.pure a) := of_runOn fun _ _ h => ⟨rfl, h⟩

theorem throw (fault : Fault) : Agrees R (throw fault : Act σ α) (throw fault : Act τ α) :=
  of_runOn fun _ _ h => ⟨rfl, h⟩

theorem liftExcept (e : Except Fault α) : Agrees R (liftM e : Act σ α) (liftM e : Act τ α) := by
  cases e with
  | ok a => exact pure a
  | error fault => exact throw fault

theorem liftState {m : StateM (Scene σ) α} {m' : StateM (Scene τ) α} (h : Agree R m m') :
    Agrees R (liftM m : Act σ α) (liftM m' : Act τ α) := by
  refine of_runOn fun s s' hs => ?_
  obtain ⟨ha, hs'⟩ := h hs
  exact ⟨congrArg Except.ok ha, hs'⟩

theorem bind {act : Act σ α} {act' : Act τ α} (h : Agrees R act act') {next : α → Act σ β}
    {next' : α → Act τ β} (hnext : ∀ a, Agrees R (next a) (next' a)) :
    Agrees R (act >>= next) (act' >>= next') := by
  refine of_runOn fun s s' hs => ?_
  obtain ⟨ha, hs'⟩ := h.runOn hs
  rw [runOn_bind, runOn_bind]
  rcases hr : act.runOn s with ⟨fault | a, t⟩ <;>
    rcases hr' : act'.runOn s' with ⟨fault' | a', t'⟩ <;>
    rw [hr, hr'] at ha hs' <;> cases ha
  · exact ⟨rfl, hs'⟩
  · exact (hnext a).runOn hs'

theorem attempt {act : Act σ α} {act' : Act τ α} (h : Agrees R act act') :
    Agrees R (Act.attempt act) (Act.attempt act') := by
  refine of_runOn fun s s' hs => ?_
  obtain ⟨ha, hs'⟩ := h.runOn hs
  rw [runOn_attempt, runOn_attempt]
  exact ⟨congrArg Except.ok ha, hs'⟩

theorem demand {question : StateM σ (Except Fault α)} {question' : StateM τ (Except Fault α)}
    (h : Agrees R (ask question) (ask question')) :
    Agrees R (Act.demand question) (Act.demand question') := by
  refine h.bind fun answer => ?_
  cases answer with
  | ok a => exact pure a
  | error fault => exact throw fault

end Act.Agrees

/-! ## Results that correspond

Where results only correspond, what comes behind them has to agree for all that do.
-/

/-- The same fault, or results that correspond. -/
inductive Corresponds (V : α → β → Prop) : Except Fault α → Except Fault β → Prop
  | ok {a : α} {b : β} (h : V a b) : Corresponds V (.ok a) (.ok b)
  | error (fault : Fault) : Corresponds V (.error fault) (.error fault)

/-- Results that correspond, and related scenes again. -/
def Act.Matches (R : Scene σ → Scene τ → Prop) (V : α → β → Prop) (act : Act σ α)
    (act' : Act τ β) : Prop :=
  ∀ ⦃s s'⦄, R s s' → Corresponds V (act.runOn s).1 (act'.runOn s').1 ∧
    R (act.runOn s).2 (act'.runOn s').2

theorem corresponds_eq_iff {r r' : Except Fault α} : Corresponds Eq r r' ↔ r = r' := by
  constructor
  · rintro (⟨h⟩ | fault)
    · exact congrArg Except.ok h
    · rfl
  · rintro rfl
    cases r with
    | ok a => exact .ok rfl
    | error fault => exact .error fault

theorem rel_self {V : α → α → Prop} (h : ∀ a, V a a) (found : Option α) :
    Option.Rel V found found := by
  cases found with
  | none => exact .none
  | some a => exact .some (h a)

namespace Act.Matches

theorem eq_iff {act : Act σ α} {act' : Act τ α} : Matches R Eq act act' ↔ Agrees R act act' := by
  constructor
  · intro h
    refine .of_runOn fun s s' hs => ?_
    obtain ⟨hresults, hs'⟩ := h hs
    exact ⟨corresponds_eq_iff.mp hresults, hs'⟩
  · intro h s s' hs
    obtain ⟨hresults, hs'⟩ := h.runOn hs
    exact ⟨corresponds_eq_iff.mpr hresults, hs'⟩

theorem pure {V : α → β → Prop} {a : α} {b : β} (h : V a b) :
    Matches R V (Pure.pure a) (Pure.pure b) := fun _ _ hs => ⟨.ok h, hs⟩

theorem bind {γ δ : Type} {V : α → β → Prop} {W : γ → δ → Prop} {act : Act σ α} {act' : Act τ β}
    (h : Matches R V act act') {next : α → Act σ γ} {next' : β → Act τ δ}
    (hnext : ∀ a b, V a b → Matches R W (next a) (next' b)) :
    Matches R W (act >>= next) (act' >>= next') := by
  intro s s' hs
  obtain ⟨hresults, hs'⟩ := h hs
  rw [runOn_bind, runOn_bind]
  rcases hr : act.runOn s with ⟨r, t⟩
  rcases hr' : act'.runOn s' with ⟨r', t'⟩
  rw [hr, hr'] at hresults hs'
  cases hresults with
  | ok hab => exact hnext _ _ hab hs'
  | error fault => exact ⟨.error fault, hs'⟩

theorem liftExcept {V : α → β → Prop} {e : Except Fault α} {e' : Except Fault β}
    (h : Corresponds V e e') : Matches R V (liftM e) (liftM e') := by
  intro s s' hs
  rw [runOn_liftM_except, runOn_liftM_except]
  exact ⟨h, hs⟩

end Act.Matches

/-! ## What the services promise -/

/-- A relation of scenes that lines cannot break, and that the services a batch needs keep. -/
structure Linked (R : Scene σ → Scene τ → Prop) (services : Services σ)
    (services' : Services τ) : Prop where
  write : ∀ (lines : List Line) ⦃s s'⦄, R s s' → R (s.write lines) (s'.write lines)
  pass : ∀ (seconds : Nat) ⦃s s'⦄, R s s' → R (s.pass services seconds) (s'.pass services' seconds)
  freshId : Act.Agrees R (Act.ask services.freshId) (Act.ask services'.freshId)
  store : ∀ object, Act.Agrees R (Act.ask (services.store object))
    (Act.ask (services'.store object))

namespace Linked

variable {services : Services σ} {services' : Services τ} (h : Linked R services services')

include h

theorem writeAct (lines : List Line) : Act.Agrees R (Act.write lines) (Act.write lines) :=
  .of_runOn fun _ _ hs => ⟨rfl, h.write lines hs⟩

theorem note (level : Level) (topic : Topic) (text : Text) :
    Act.Agrees R (Act.note level topic text) (Act.note level topic text) := h.writeAct _

/-! ## Archiving -/

theorem archiveAs (w : ArchiveWriter) (source key : Text) (data : Bytes) :
    Act.Agrees R (w.archiveAs services source key data)
      (w.archiveAs services' source key data) := by
  have hput : Act.Agrees R (w.put services key data) (w.put services' key data) :=
    (Act.Agrees.liftExcept _).bind fun body => (h.store _).demand
  refine hput.attempt.bind fun r => ?_
  rcases r with fault | _
  · cases hl : ArchiveWriter.errorLine? key fault with
    | none => simpa only [hl] using Act.Agrees.throw fault
    | some line => simpa only [hl] using (h.writeAct [line]).bind fun _ => Act.Agrees.pure _
  · exact Act.Agrees.pure _

theorem archive (w : ArchiveWriter) (data : Bytes) (source : Text) :
    Act.Agrees R (w.archive services data source) (w.archive services' data source) := by
  by_cases hd : data.isEmpty = true
  · simpa only [ArchiveWriter.archive, hd, if_true] using
      (h.note _ _ _).bind fun _ => Act.Agrees.pure Outcome.noNewData
  · simp only [ArchiveWriter.archive, hd]
    refine (h.note _ _ _).bind fun _ => ?_
    refine Act.Agrees.bind ?_ fun key => (h.note _ _ _).bind fun _ => h.archiveAs w source key data
    exact h.freshId.bind fun id => Act.Agrees.pure _

end Linked

/-! ## Failures of before

A floor never looks at its failures, so failures that were there before the first move just stay in
front.
-/

/-- The floor with more failures from before. -/
def Floor.withEarlier (earlier : Failures) (f : Floor) : Floor :=
  { f with failures := earlier ++ f.failures }

@[simp] theorem Floor.withEarlier_tickets (earlier : Failures) (f : Floor) :
    (f.withEarlier earlier).tickets = f.tickets := rfl

@[simp] theorem Floor.withEarlier_next (earlier : Failures) (f : Floor) :
    (f.withEarlier earlier).next = f.next := rfl

theorem Floor.start_eq_withEarlier (tasks : List Task) (permits : Option Nat) (refused : Failures) :
    Floor.start tasks permits refused = (Floor.start tasks permits []).withEarlier refused := by
  simp [Floor.start, Floor.withEarlier]

/-! ## Batches -/

namespace Pipeline

/-- Two pipelines of one make, over services that keep the relation and with connectors that agree
along it. -/
structure Linked (R : Scene σ → Scene τ → Prop) (p : Pipeline σ) (p' : Pipeline τ)
    (services : Services σ)
    (services' : Services τ) : Prop extends LogHarvest.Linked R services services' where
  routing : p.routing = p'.routing
  writer : p.writer = p'.writer
  cap : p.cap = p'.cap
  begin : ∀ task, Agree R (p.begin task) (p'.begin task)

namespace Linked

variable {p : Pipeline σ} {p' : Pipeline τ} {services : Services σ} {services' : Services τ}
  (h : p.Linked R p' services services')

include h

theorem settle (data : Bytes) (source : Text) :
    Agree R (p.settle services data source) (p'.settle services' data source) := by
  have harchive : Act.Agrees R (p.writer.archive services data source)
      (p'.writer.archive services' data source) := by
    rw [← h.writer]
    exact h.toLinked.archive p.writer data source
  exact Agree.bind harchive fun r => Agree.pure _

/-- The step lemma: the same move, with related scenes and with other failures from before. -/
theorem move (earlier : Failures) (f : Floor) (i : Nat) (t : Ticket) ⦃s : Scene σ⦄ ⦃s' : Scene τ⦄
    (hs : R s s') :
    ((p'.move services' (f.withEarlier earlier) i t).run s').1 =
        ((p.move services f i t).run s).1.withEarlier earlier ∧
      R ((p.move services f i t).run s).2
        ((p'.move services' (f.withEarlier earlier) i t).run s').2 := by
  unfold Pipeline.move
  cases t.stage with
  | waiting =>
    obtain ⟨ha, hs'⟩ := h.begin t.task hs
    refine ⟨?_, hs'⟩
    show (f.withEarlier earlier).takePermit i ((p'.begin t.task).run s').1 = _
    rw [← ha]
    rfl
  | pulling answer => exact ⟨rfl, h.pass _ hs⟩
  | archiving data =>
    obtain ⟨ha, hs'⟩ := h.settle data t.task.source hs
    refine ⟨?_, hs'⟩
    show (f.withEarlier earlier).moveTo i ((p'.settle services' data t.task.source).run s').1 = _
    rw [← ha]
    rfl
  | settled outcome => exact ⟨rfl, hs⟩
  | released outcome =>
    refine ⟨?_, h.write _ hs⟩
    show (f.withEarlier earlier).record i t outcome = (f.record i t outcome).withEarlier earlier
    simp [Floor.record, Floor.moveTo, Floor.withEarlier]
  | done outcome => exact ⟨rfl, hs⟩
  | halted order => exact ⟨rfl, hs⟩

theorem moves (earlier : Failures) (n : Nat) (f : Floor) ⦃s : Scene σ⦄ ⦃s' : Scene τ⦄
    (hs : R s s') :
    ((p'.moves services' n (f.withEarlier earlier)).run s').1 =
        ((p.moves services n f).run s).1.withEarlier earlier ∧
      R ((p.moves services n f).run s).2
        ((p'.moves services' n (f.withEarlier earlier)).run s').2 := by
  induction n generalizing f s s' with
  | zero => exact ⟨rfl, hs⟩
  | succ n ih =>
    simp only [Pipeline.moves, Floor.withEarlier_next, Floor.withEarlier_tickets]
    cases hnext : f.next.bind fun i => f.tickets[i]?.map fun t => (i, t) with
    | none => exact ⟨rfl, hs⟩
    | some it =>
      obtain ⟨hf, hs'⟩ := h.move earlier f it.1 it.2 hs
      have hrest := ih ((p.move services f it.1 it.2).run s).1 hs'
      rw [← hf] at hrest
      exact hrest

end Linked

theorem linked_refl (p : Pipeline σ) (services : Services σ) : p.Linked Eq p services services where
  write := by rintro lines s _ rfl; rfl
  pass := by rintro seconds s _ rfl; rfl
  freshId := .of_runOn fun _ _ hs => hs ▸ ⟨rfl, rfl⟩
  store _ := .of_runOn fun _ _ hs => hs ▸ ⟨rfl, rfl⟩
  routing := rfl
  writer := rfl
  cap := rfl
  begin _ := by rintro s _ rfl; exact ⟨rfl, rfl⟩

namespace Linked

variable {p : Pipeline σ} {p' : Pipeline τ} {services : Services σ} {services' : Services τ}
  (h : p.Linked R p' services services')

include h

/-- The run lemma: two batches with the same requests come to the same, whatever failed before. -/
theorem run (tasks : List Task) (permits : Option Nat) (refused refused' : Failures) ⦃s : Scene σ⦄
    ⦃s' : Scene τ⦄ (hs : R s s') :
    ∃ late : Floor, ((p.run services (.start tasks permits refused)).run s).1 =
      late.withEarlier refused ∧
      ((p'.run services' (.start tasks permits refused')).run s').1 = late.withEarlier refused' ∧
      R ((p.run services (.start tasks permits refused)).run s).2
        ((p'.run services' (.start tasks permits refused')).run s').2 := by
  have hown := (p.linked_refl services).moves refused (Floor.start tasks permits []).todo
    (.start tasks permits []) (Eq.refl s)
  have hother := h.moves refused' (Floor.start tasks permits []).todo (.start tasks permits []) hs
  rw [Floor.start_eq_withEarlier tasks permits refused,
    Floor.start_eq_withEarlier tasks permits refused']
  refine ⟨_, hown.1, hother.1, ?_⟩
  rw [hown.2] at hother
  exact hother.2

theorem ofMessages [Json.Limits] (messages : List Message) :
    Act.Agrees R (Verdict.ofMessages p.routing messages)
      (Verdict.ofMessages p'.routing messages) := by
  rw [← h.routing]
  induction messages with
  | nil => exact Act.Agrees.pure _
  | cons m messages ih =>
    refine (Act.Agrees.liftExcept _).bind fun verdict => ?_
    exact (h.writeAct _).bind fun _ => ih.bind fun verdicts => Act.Agrees.pure _

/-- Linked pipelines process a batch alike. -/
theorem process [Json.Limits] (messages : List Message) :
    Act.Agrees R (p.process services messages) (p'.process services' messages) := by
  refine (h.ofMessages messages).bind fun verdicts => ?_
  refine (h.note _ _ _).bind fun _ => ?_
  rw [← h.cap]
  refine (Act.Agrees.liftExcept _).bind fun free => ?_
  refine Act.Agrees.bind (.liftState ?_) fun floor => ?_
  · intro s s' hs
    obtain ⟨late, hfloor, hfloor', hs'⟩ := h.run (verdicts.filterMap Verdict.task?) free
      (verdicts.filterMap Verdict.failure?) (verdicts.filterMap Verdict.failure?) hs
    exact ⟨hfloor.trans hfloor'.symm, hs'⟩
  · refine (Act.Agrees.liftExcept _).bind fun _ => ?_
    exact (h.note _ _ _).bind fun _ => (h.writeAct _).bind fun _ => Act.Agrees.pure _

end Linked

end Pipeline

end LogHarvest
