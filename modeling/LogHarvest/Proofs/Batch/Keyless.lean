import LogHarvest.Proofs.Agreement
import LogHarvest.Proofs.Batch.Runs
import Mathlib.Data.List.Forall2

/-!
# Batches that differ in keys only

The key of an object is drawn when the object is stored, so no two batches agree on it. Nothing that
a floor does looks at a key: floors that are the same without their keys have the same next move and
are the same without their keys after it. `Pipeline.Parallel` is what two pipelines need for that.
-/

namespace LogHarvest

variable {σ τ : Type}

/-! ## Without keys -/

/-- The fault without the key of the object. -/
def Fault.keyless : Fault → Fault
  | archive source _ cause => archive source [] cause
  | fault => fault

/-- The outcome without the key of the object. -/
def Outcome.keyless : Outcome → Outcome
  | archived size _ => archived size []
  | noNewData => noNewData
  | failed cause => failed cause.keyless

/-- The stage without the key of the object. -/
def Stage.keyless : Stage → Stage
  | settled outcome => settled outcome.keyless
  | released outcome => released outcome.keyless
  | done outcome => done outcome.keyless
  | stage => stage

/-- The ticket without the key of its object. -/
def Ticket.keyless (t : Ticket) : Ticket := { t with stage := t.stage.keyless }

/-- The failure without the key of the object. -/
def Failure.keyless (failure : Failure) : Failure := { failure with cause := failure.cause.keyless }

/-- The floor without keys. -/
def Floor.keyless (f : Floor) : Floor :=
  { f with
    tickets := f.tickets.map Ticket.keyless
    failures := f.failures.map Failure.keyless }

namespace Stage

/-- The same stage, but for the key of the object. -/
inductive SameButKey : Stage → Stage → Prop
  | waiting : SameButKey waiting waiting
  | pulling (answer : Except Fault Bytes) : SameButKey (pulling answer) (pulling answer)
  | archiving (data : Bytes) : SameButKey (archiving data) (archiving data)
  | settled {outcome outcome' : Outcome} (h : outcome.keyless = outcome'.keyless) :
      SameButKey (settled outcome) (settled outcome')
  | released {outcome outcome' : Outcome} (h : outcome.keyless = outcome'.keyless) :
      SameButKey (released outcome) (released outcome')
  | done {outcome outcome' : Outcome} (h : outcome.keyless = outcome'.keyless) :
      SameButKey (done outcome) (done outcome')
  | halted (order : Fault) : SameButKey (halted order) (halted order)

theorem sameButKey_of_keyless_eq {stage stage' : Stage} (h : stage.keyless = stage'.keyless) :
    SameButKey stage stage' := by
  cases stage <;> cases stage' <;> injection h
  case waiting.waiting => exact .waiting
  case pulling.pulling heq => exact heq ▸ .pulling _
  case archiving.archiving heq => exact heq ▸ .archiving _
  case settled.settled heq => exact .settled heq
  case released.released heq => exact .released heq
  case done.done heq => exact .done heq
  case halted.halted heq => exact heq ▸ .halted _

variable (stage : Stage)

@[simp] theorem isInstant_keyless : stage.keyless.isInstant = stage.isInstant := by
  cases stage <;> rfl

@[simp] theorem isWaiting_keyless : stage.keyless.isWaiting = stage.isWaiting := by
  cases stage <;> rfl

@[simp] theorem isPulling_keyless : stage.keyless.isPulling = stage.isPulling := by
  cases stage <;> rfl

@[simp] theorem order?_keyless : stage.keyless.order? = stage.order? := by
  cases stage <;> rfl

end Stage

namespace Floor

variable (f : Floor) (i : Nat)

/-! ## Moves without keys -/

theorem map_modify {α β : Type} {k : α → β} {g : α → α} {m : β → β}
    (h : ∀ a, k (g a) = m (k a)) (xs : List α) (i : Nat) :
    (xs.modify i g).map k = (xs.map k).modify i m := by
  refine List.ext_getElem? fun j => ?_
  simp only [List.getElem?_map, List.getElem?_modify]
  cases xs[j]? <;> by_cases hij : i = j <;> simp [hij, h]

theorem keyless_moveTo (stage : Stage) :
    (f.moveTo i stage).keyless = f.keyless.moveTo i stage.keyless := by
  have htickets := map_modify (k := Ticket.keyless) (g := fun t => { t with stage := stage })
    (m := fun t => { t with stage := stage.keyless }) (fun _ => rfl) f.tickets i
  simp only [moveTo, keyless, htickets]

theorem keyless_takePermit (pull : Pull) :
    (f.takePermit i pull).keyless = f.keyless.takePermit i pull := by
  have htickets := map_modify (k := Ticket.keyless)
    (g := fun t => { t with
      stage := .pulling pull.answer, start := f.now, finish := f.now + pull.seconds })
    (m := fun t => { t with
      stage := .pulling pull.answer, start := f.now, finish := f.now + pull.seconds })
    (fun _ => rfl) f.tickets i
  simp only [takePermit, keyless, htickets]

theorem keyless_afterFault (fault cause : Fault) :
    (afterFault fault cause).keyless = afterFault fault cause.keyless := by
  unfold afterFault
  split <;> rfl

theorem keyless_afterPull (source : Text) (answer : Except Fault Bytes) :
    (afterPull source answer).keyless = afterPull source answer := by
  cases answer with
  | ok data => rfl
  | error fault => exact keyless_afterFault fault (.connector source fault)

theorem keyless_endPull (t : Ticket) (answer : Except Fault Bytes) :
    (f.endPull i t answer).keyless = f.keyless.endPull i t.keyless answer := by
  have hmove := f.keyless_moveTo i (afterPull t.task.source answer)
  rw [keyless_afterPull] at hmove
  exact congrArg (fun f' : Floor => { f' with now := max f.now t.finish }) hmove

theorem keyless_release (outcome : Outcome) :
    (f.release i outcome).keyless = f.keyless.release i outcome.keyless :=
  congrArg (fun f' : Floor => { f' with free := f.free.map (· + 1) })
    (f.keyless_moveTo i (.released outcome))

theorem keyless_failureOf (t : Ticket) (outcome : Outcome) :
    (failureOf t outcome).map Failure.keyless = failureOf t.keyless outcome.keyless := by
  cases outcome <;> rfl

theorem keyless_record (t : Ticket) (outcome : Outcome) :
    (f.record i t outcome).keyless = f.keyless.record i t.keyless outcome.keyless := by
  have hfailures : (f.failures ++ (failureOf t outcome).toList).map Failure.keyless =
      f.failures.map Failure.keyless ++ (failureOf t.keyless outcome.keyless).toList := by
    rw [List.map_append, ← keyless_failureOf, Option.toList_map]
  rw [record, record, keyless, hfailures]
  exact congrArg (fun f' : Floor => { f' with failures := f.failures.map Failure.keyless ++
    (failureOf t.keyless outcome.keyless).toList }) (f.keyless_moveTo i (.done outcome))

/-- A ticket is found where it is found without keys, if keys have no say in what is looked for. -/
theorem findIdx?_keyless {q : Ticket → Bool} (h : ∀ t : Ticket, q t.keyless = q t)
    (tickets : List Ticket) : (tickets.map Ticket.keyless).findIdx? q = tickets.findIdx? q := by
  rw [List.findIdx?_map]
  exact congrArg (fun q => tickets.findIdx? q) (funext h)

theorem earliest?_keyless (tickets : List Ticket) :
    earliest? (tickets.map Ticket.keyless) = earliest? tickets := by
  have hpulling : ∀ t : Ticket, t.keyless.stage.isPulling = t.stage.isPulling :=
    fun t => t.stage.isPulling_keyless
  have hfinish : ((tickets.map Ticket.keyless).filter fun t => t.stage.isPulling).map (·.finish) =
      (tickets.filter fun t => t.stage.isPulling).map (·.finish) := by
    rw [List.filter_map, List.map_map]
    congr 1
    exact List.filter_congr fun t _ => hpulling t
  simp only [earliest?, hfinish]
  split
  · rfl
  · exact findIdx?_keyless (fun t => congrArg (· && t.finish == _) (hpulling t)) tickets

/-- Keys have no say in what has halted the floor. -/
theorem order?_keyless : f.keyless.order? = f.order? := by
  have htickets (ts : List Ticket) : (ts.map Ticket.keyless).findSome? (fun t => t.stage.order?) =
      ts.findSome? fun t => t.stage.order? := by
    rw [List.findSome?_map]
    exact congrArg (ts.findSome? ·) (funext fun t => t.stage.order?_keyless)
  exact htickets f.tickets

/-- Keys have no say in which move is next. -/
theorem next_keyless : f.keyless.next = f.next := by
  have horder := f.order?_keyless
  have hinstant := findIdx?_keyless (q := fun t => t.stage.isInstant)
    (fun t => t.stage.isInstant_keyless) f.tickets
  have hwaiting := findIdx?_keyless (q := fun t => t.stage.isWaiting)
    (fun t => t.stage.isWaiting_keyless) f.tickets
  rw [next, next, horder]
  simp only [keyless, hinstant, hwaiting, earliest?_keyless]
  rfl

end Floor

theorem Failures.report_eq_of_keyless_eq {fs fs' : Failures}
    (h : fs.map Failure.keyless = fs'.map Failure.keyless) : fs.report = fs'.report := by
  have hids : fs.map (·.id) = fs'.map (·.id) := by
    simpa [Function.comp_def, Failure.keyless] using congrArg (List.map (·.id)) h
  have hempty : fs.isEmpty = fs'.isEmpty := by
    simpa using congrArg List.isEmpty h
  rw [report, report, hids, hempty]

/-! ## Batches -/

/-- Two results that are the same without keys: the same ids are reported. -/
structure BatchResult.SameButKeys (result result' : BatchResult) : Prop where
  report_eq : result.report = result'.report
  refused_eq : result.refused = result'.refused
  floor_eq : result.floor.keyless = result'.floor.keyless

namespace Pipeline

/-- Two pipelines of one make that go on alike, but for the keys: whatever they write, they stay in
related scenes. -/
structure Parallel (R : Scene σ → Scene τ → Prop) (p : Pipeline σ) (p' : Pipeline τ)
    (services : Services σ) (services' : Services τ) : Prop where
  write : ∀ (lines lines' : List Line) ⦃s s'⦄, R s s' → R (s.write lines) (s'.write lines')
  pass : ∀ (seconds : Nat) ⦃s s'⦄, R s s' → R (s.pass services seconds) (s'.pass services' seconds)
  routing : p.routing = p'.routing
  cap : p.cap = p'.cap
  begin : ∀ task, Agree R (p.begin task) (p'.begin task)
  settle : ∀ data source ⦃s s'⦄, R s s' →
    ((p.settle services data source).run s).1.keyless =
        ((p'.settle services' data source).run s').1.keyless ∧
      R ((p.settle services data source).run s).2 ((p'.settle services' data source).run s').2

namespace Parallel

variable {R : Scene σ → Scene τ → Prop} {p : Pipeline σ} {p' : Pipeline τ} {services : Services σ}
  {services' : Services τ} (h : p.Parallel R p' services services')

include h

/-- The step lemma: floors and tickets that are the same without keys stay so. -/
theorem move {f f' : Floor} (hf : f.keyless = f'.keyless) (i : Nat) {t t' : Ticket}
    (ht : t.keyless = t'.keyless) ⦃s : Scene σ⦄ ⦃s' : Scene τ⦄ (hs : R s s') :
    ((p.move services f i t).run s).1.keyless = ((p'.move services' f' i t').run s').1.keyless ∧
      R ((p.move services f i t).run s).2 ((p'.move services' f' i t').run s').2 := by
  have htask : t.task = t'.task := (congrArg Ticket.task ht :)
  have hkind := Stage.sameButKey_of_keyless_eq (congrArg Ticket.stage ht)
  unfold Pipeline.move
  generalize t.stage = stage at hkind ⊢
  generalize t'.stage = stage' at hkind ⊢
  cases hkind with
  | waiting =>
    obtain ⟨ha, hs'⟩ := h.begin t.task hs
    refine ⟨?_, htask ▸ hs'⟩
    show (f.takePermit i ((p.begin t.task).run s).1).keyless =
      (f'.takePermit i ((p'.begin t'.task).run s').1).keyless
    rw [Floor.keyless_takePermit, Floor.keyless_takePermit, hf, ha, htask]
  | pulling answer =>
    have hnow : f.now = f'.now := (congrArg Floor.now hf :)
    have hfinish : t.finish = t'.finish := (congrArg Ticket.finish ht :)
    refine ⟨?_, hnow ▸ hfinish ▸ h.pass _ hs⟩
    show (f.endPull i t answer).keyless = (f'.endPull i t' answer).keyless
    rw [Floor.keyless_endPull, Floor.keyless_endPull, hf, ht]
  | archiving data =>
    obtain ⟨ha, hs'⟩ := h.settle data t.task.source hs
    refine ⟨?_, htask ▸ hs'⟩
    show (f.moveTo i ((p.settle services data t.task.source).run s).1).keyless =
      (f'.moveTo i ((p'.settle services' data t'.task.source).run s').1).keyless
    rw [Floor.keyless_moveTo, Floor.keyless_moveTo, hf, ha, htask]
  | @settled outcome outcome' houtcome =>
    refine ⟨?_, hs⟩
    show (f.release i outcome).keyless = (f'.release i outcome').keyless
    rw [Floor.keyless_release, Floor.keyless_release, hf, houtcome]
  | @released outcome outcome' houtcome =>
    refine ⟨?_, h.write _ _ hs⟩
    show (f.record i t outcome).keyless = (f'.record i t' outcome').keyless
    rw [Floor.keyless_record, Floor.keyless_record, hf, ht, houtcome]
  | done | halted => exact ⟨hf, hs⟩

/-- The run lemma. -/
theorem moves (n : Nat) {f f' : Floor} (hf : f.keyless = f'.keyless) ⦃s : Scene σ⦄ ⦃s' : Scene τ⦄
    (hs : R s s') :
    ((p.moves services n f).run s).1.keyless = ((p'.moves services' n f').run s').1.keyless ∧
      R ((p.moves services n f).run s).2 ((p'.moves services' n f').run s').2 := by
  induction n generalizing f f' s s' with
  | zero => exact ⟨hf, hs⟩
  | succ n ih =>
    have hnext : f'.next = f.next := by rw [← f'.next_keyless, ← hf, f.next_keyless]
    have htickets : ∀ i : Nat,
        f.tickets[i]?.map Ticket.keyless = f'.tickets[i]?.map Ticket.keyless := by
      intro i
      rw [← List.getElem?_map, ← List.getElem?_map]
      exact congrArg (fun f : Floor => f.tickets[i]?) hf
    simp only [Pipeline.moves, hnext]
    cases f.next with
    | none => exact ⟨hf, hs⟩
    | some i =>
      have ht := htickets i
      simp only [Option.bind_some]
      cases hi : f.tickets[i]? with
      | none =>
        rw [hi, Option.map_none, eq_comm, Option.map_eq_none_iff] at ht
        rw [ht]
        exact ⟨hf, hs⟩
      | some t =>
        rw [hi, Option.map_some, eq_comm] at ht
        obtain ⟨t', hi', ht'⟩ := Option.map_eq_some_iff.mp ht
        rw [hi']
        obtain ⟨hf', hs'⟩ := h.move hf i ht'.symm hs
        exact ih hf' hs'

/-- Parallel pipelines give up on the same. -/
theorem givesUp [Json.Limits] {messages : List Message} {fault : Fault} {lines : List Line}
    (hgives : p.GivesUp messages fault lines) : p'.GivesUp messages fault lines := by
  cases hgives with
  | unjudged hbefore hm => exact .unjudged (h.routing ▸ hbefore) (h.routing ▸ hm)
  | unpermitted hjudged hfree => exact .unpermitted (h.routing ▸ hjudged) (h.cap ▸ hfree)

/-- Parallel pipelines come to the same with a batch, but for the keys. -/
theorem process [Json.Limits] (messages : List Message) :
    Act.Matches R BatchResult.SameButKeys (p.process services messages)
      (p'.process services' messages) := by
  intro s s' hs
  rcases p.givesUp_or_dispatched messages with
    ⟨fault, lines, hgives⟩ | ⟨verdicts, free, hjudged, hfree⟩
  · rw [p.process_of_givesUp services hgives, p'.process_of_givesUp services' (h.givesUp hgives)]
    exact ⟨.error fault, h.write _ _ hs⟩
  · have hjudged' := h.routing ▸ hjudged
    obtain ⟨hfloor, hs'⟩ := h.moves (dispatch verdicts free).todo (f := dispatch verdicts free)
      rfl (h.write (opening verdicts) (opening verdicts) hs)
    rcases hrun : (p.run services (dispatch verdicts free)).run (s.write (opening verdicts)) with
      ⟨floor, after⟩
    rcases hrun' : (p'.run services' (dispatch verdicts free)).run
      (s'.write (opening verdicts)) with ⟨floor', after'⟩
    rw [← run, ← run, hrun, hrun'] at hfloor hs'
    have horder : floor.order? = floor'.order? := by
      rw [← floor.order?_keyless, hfloor, floor'.order?_keyless]
    cases ho : floor.order? with
    | none =>
      rw [p.process_of_judged services hjudged hfree hrun ho,
        p'.process_of_judged services' hjudged' (h.cap ▸ hfree) hrun' (horder ▸ ho)]
      have hreport := Failures.report_eq_of_keyless_eq (congrArg Floor.failures hfloor)
      exact ⟨.ok ⟨hreport, rfl, hfloor⟩, h.write _ _ hs'⟩
    | some order =>
      rw [p.process_of_order services hjudged hfree hrun ho,
        p'.process_of_order services' hjudged' (h.cap ▸ hfree) hrun' (horder ▸ ho)]
      exact ⟨.error order, hs'⟩

end Parallel

end Pipeline

end LogHarvest
