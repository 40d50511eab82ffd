import LogHarvest.Batch.Pipeline
import Mathlib.Algebra.Ring.Nat
import Mathlib.Logic.Relation

/-!
# The moves of a floor, in any order

`Floor.next` fixes one order in which the requests of a batch are moved. Here the order is left
open: `Floor.Move` is any one move that the stage of a request and the permits allow. Permits are
given out first come, first served; a pull may end with anything, and so may archiving. A
`Floor.Step` is a move by which nobody is told to end the program.

* `Move.change`: a move changes one ticket, and says what becomes of the permits and of the failures
* `Accounted.moves`: no permit and no failure is lost or made up on the way
* `Accounted.exists_step`: as long as a request is not through, there is a step

Every other statement about all orders follows from these three.
-/

namespace LogHarvest

/-! ## A ticket's part -/

/-- Whether the request is told to end the program, or will be as soon as its pull ends. -/
def Stage.hasOrder : Stage → Bool
  | .pulling (.error fault) => fault.isInterrupt
  | .halted _ => true
  | _ => false

/-- How many permits the request holds. -/
def Ticket.held (t : Ticket) : Nat := if t.stage.holdsPermit then 1 else 0

/-- What the request has recorded: its failure, once it is through and failed. -/
def Ticket.recorded (t : Ticket) : Failures :=
  match t.stage with
  | .done outcome => (Floor.failureOf t outcome).toList
  | _ => []

/-- Whether nothing is left to do for the request. -/
def Ticket.isThrough (t : Ticket) : Bool := t.stage.outcome?.isSome

theorem Ticket.isThrough_iff {t : Ticket} : t.isThrough = true ↔
    ∃ outcome, t.stage = .done outcome := by
  cases h : t.stage <;> simp [isThrough, Stage.outcome?, h]

/-- Who holds a permit neither waits nor is through. -/
theorem Stage.isElse_of_holdsPermit {stage : Stage} (h : stage.holdsPermit = true) :
    stage.isWaiting = false ∧ stage.outcome? = none := by
  cases stage <;> simp_all [holdsPermit, isWaiting, outcome?]

theorem Ticket.isThrough_eq_false_of_holdsPermit {t : Ticket} (h : t.stage.holdsPermit = true) :
    t.isThrough = false := by
  rw [isThrough, (Stage.isElse_of_holdsPermit h).2]
  rfl

theorem Ticket.recorded_of_not_through {t : Ticket} (h : t.isThrough = false) :
    t.recorded = [] := by
  unfold recorded
  cases hs : t.stage <;> simp_all [isThrough, Stage.outcome?]

theorem Ticket.recorded_of_holdsPermit {t : Ticket} (h : t.stage.holdsPermit = true) :
    t.recorded = [] := recorded_of_not_through (isThrough_eq_false_of_holdsPermit h)

/-- What comes of a pull or of archiving: the permit is still held, at most so much is left to do,
and nothing but an order to end the program halts the request. -/
structure Stage.IsInHand (bound : Nat) (stage : Stage) : Prop where
  rank_le : stage.rank ≤ bound
  holdsPermit : stage.holdsPermit = true
  order : ∀ order, stage = .halted order → order.isInterrupt = true

theorem Stage.IsInHand.mono {bound more : Nat} {stage : Stage} (h : stage.IsInHand bound)
    (hmore : bound ≤ more) : stage.IsInHand more :=
  { h with rank_le := Nat.le_trans h.rank_le hmore }

namespace Floor

/-! ## Moves -/

/-- One move of one request. -/
inductive Move : Floor → Floor → Prop
  /-- The first request that waits gets a permit, if one is free. -/
  | takePermit {f : Floor} {i : Nat} (pull : Pull) (hfree : f.hasFree = true)
      (hfirst : f.tickets.findIdx? (fun t => t.stage.isWaiting) = some i) :
      Move f (f.takePermit i pull)
  /-- A pull ends, with logs or with a fault. -/
  | endPull {f : Floor} {i : Nat} {t : Ticket} {answer : Except Fault Bytes}
      (ht : f.tickets[i]? = some t)
      (hs : t.stage = .pulling answer) :
      Move f (f.endPull i t answer)
  /-- Archiving ends, with an outcome or with a fault. -/
  | endArchiving {f : Floor} {i : Nat} {t : Ticket} {data : Bytes} (answer : Except Fault Outcome)
      (ht : f.tickets[i]? = some t) (hs : t.stage = .archiving data) :
      Move f (f.moveTo i (afterArchive t.task.source answer))
  /-- A request gives its permit back. -/
  | release {f : Floor} {i : Nat} {t : Ticket} {outcome : Outcome} (ht : f.tickets[i]? = some t)
      (hs : t.stage = .settled outcome) :
      Move f (f.release i outcome)
  /-- A request records its failure, if it failed. -/
  | record {f : Floor} {i : Nat} {t : Ticket} {outcome : Outcome} (ht : f.tickets[i]? = some t)
      (hs : t.stage = .released outcome) :
      Move f (f.record i t outcome)

/-- Nobody is told to end the program. -/
def IsSpared (f : Floor) : Prop := ∀ t ∈ f.tickets, t.stage.hasOrder = false

/-- A move by which nobody is told to end the program. -/
def Step (f f' : Floor) : Prop := Move f f' ∧ f'.IsSpared

/-- A floor that some steps lead to. -/
abbrev Reachable : Floor → Floor → Prop := Relation.ReflTransGen Step

/-- All that a move changes: one ticket goes on, permits only change hands, what the request records
is what the failures grow by, and nothing but an order to end the program halts it. -/
structure Change (f f' : Floor) (before after : List Ticket) (t t' : Ticket) : Prop where
  tickets : f.tickets = before ++ t :: after
  tickets' : f'.tickets = before ++ t' :: after
  task : t'.task = t.task
  rank_lt : t'.stage.rank < t.stage.rank
  permits : f'.free.map (· + t'.held) = f.free.map (· + t.held)
  unrecorded : t.recorded = []
  failures : f'.failures = f.failures ++ t'.recorded
  order : ∀ order, t'.stage = .halted order → order.isInterrupt = true

theorem exists_split_of_modify {ts : List Ticket} {i : Nat} {t : Ticket} (h : ts[i]? = some t)
    (g : Ticket → Ticket) :
    ∃ before after, ts = before ++ t :: after ∧ ts.modify i g = before ++ g t :: after := by
  obtain ⟨hi, rfl⟩ := List.getElem?_eq_some_iff.mp h
  obtain ⟨before, t', after, hsplit, hlen, hmod⟩ := List.exists_of_modify g hi
  subst hlen
  exact ⟨before, after, by simp [hsplit], by simpa [hsplit] using hmod⟩

/-- A ticket that goes on with its permit leaves the permits and the failures alone. -/
theorem change_moveTo {f : Floor} {i bound : Nat} {t : Ticket} {stage : Stage}
    (ht : f.tickets[i]? = some t) (hheld : t.stage.holdsPermit = true)
    (hstage : stage.IsInHand bound) (hbound : bound < t.stage.rank) :
    ∃ before after, Change f (f.moveTo i stage) before after t { t with stage := stage } := by
  obtain ⟨before, after, hts, hmod⟩ :=
    exists_split_of_modify ht fun t => { t with stage := stage }
  have hrecorded : ({ t with stage := stage } : Ticket).recorded = [] :=
    Ticket.recorded_of_holdsPermit hstage.holdsPermit
  refine ⟨before, after, hts, hmod, rfl, Nat.lt_of_le_of_lt hstage.rank_le hbound, ?_,
    Ticket.recorded_of_holdsPermit hheld, ?_, hstage.order⟩
  · simp [moveTo, Ticket.held, hheld, hstage.holdsPermit]
  · simp [moveTo, hrecorded]

theorem isInHand_afterFault (fault cause : Fault) : (afterFault fault cause).IsInHand 2 := by
  unfold afterFault
  split
  · next horder =>
    refine ⟨Nat.zero_le _, rfl, ?_⟩
    rintro _ ⟨⟩
    exact horder
  · exact ⟨Nat.le_refl _, rfl, fun _ h => (by cases h)⟩

theorem isInHand_afterPull (source : Text) (answer : Except Fault Bytes) :
    (afterPull source answer).IsInHand 3 := by
  cases answer with
  | ok data => exact ⟨Nat.le_refl _, rfl, fun _ h => (by cases h)⟩
  | error fault => exact (isInHand_afterFault ..).mono (by decide)

theorem isInHand_afterArchive (source : Text) (answer : Except Fault Outcome) :
    (afterArchive source answer).IsInHand 2 := by
  cases answer with
  | ok outcome => exact ⟨Nat.le_refl _, rfl, fun _ h => (by cases h)⟩
  | error fault => exact isInHand_afterFault ..

/-- The ticket that is found first among the waiting ones waits. -/
theorem exists_waiting_of_findIdx? {ts : List Ticket} {i : Nat}
    (h : ts.findIdx? (fun t => t.stage.isWaiting) = some i) :
    ∃ t, ts[i]? = some t ∧ t.stage = .waiting := by
  obtain ⟨hi, hw, -⟩ := List.findIdx?_eq_some_iff_getElem.mp h
  refine ⟨ts[i], List.getElem?_eq_getElem hi, ?_⟩
  cases hs : ts[i].stage <;> simp [hs, Stage.isWaiting] at hw
  rfl

theorem Move.change {f f' : Floor} (h : Move f f') :
    ∃ before after t t', Change f f' before after t t' := by
  cases h with
  | @takePermit i pull hfree hfirst =>
    obtain ⟨t, ht, hs⟩ := exists_waiting_of_findIdx? hfirst
    obtain ⟨before, after, hts, hmod⟩ := exists_split_of_modify ht fun t =>
      { t with stage := .pulling pull.answer, start := f.now, finish := f.now + pull.seconds }
    refine ⟨before, after, t, _, hts, hmod, rfl, ?_, ?_, ?_, ?_, fun _ h => (by cases h)⟩
    · simp [hs, Stage.rank]
    · -- one permit less is free, and the ticket holds one more
      cases hn : f.free with
      | none => simp [Floor.takePermit, hn]
      | some n =>
        have hpos : n ≠ 0 := by simpa [hasFree, hn] using hfree
        simp only [Floor.takePermit, hn, Option.map_some, Ticket.held, hs, Stage.holdsPermit,
          Option.some.injEq]
        simp only [↓reduceIte, Bool.false_eq_true]
        omega
    · simp [Ticket.recorded, hs]
    · simp [Floor.takePermit, Ticket.recorded]
  | @endPull i t answer ht hs =>
    obtain ⟨before, after, hc⟩ := change_moveTo ht (by rw [hs]; rfl)
      (isInHand_afterPull t.task.source answer) (by rw [hs]; exact Nat.lt_succ_self 3)
    -- the clock goes on as well, which no ticket sees
    exact ⟨before, after, t, _, hc.tickets, hc.tickets', hc.task, hc.rank_lt, hc.permits,
      hc.unrecorded, hc.failures, hc.order⟩
  | @endArchiving i t data answer ht hs =>
    obtain ⟨before, after, hc⟩ := change_moveTo ht (by rw [hs]; rfl)
      (isInHand_afterArchive t.task.source answer) (by rw [hs]; exact Nat.lt_succ_self 2)
    exact ⟨before, after, _, _, hc⟩
  | @release i t outcome ht hs =>
    obtain ⟨before, after, hts, hmod⟩ :=
      exists_split_of_modify ht fun t => { t with stage := .released outcome }
    refine ⟨before, after, t, _, hts, hmod, rfl, by simp [hs, Stage.rank], ?_, ?_, ?_,
      fun _ h => (by cases h)⟩
    · cases hn : f.free <;> simp [Floor.release, moveTo, hn, Ticket.held, hs, Stage.holdsPermit]
    · simp [Ticket.recorded, hs]
    · simp [Floor.release, moveTo, Ticket.recorded]
  | @record i t outcome ht hs =>
    obtain ⟨before, after, hts, hmod⟩ :=
      exists_split_of_modify ht fun t => { t with stage := .done outcome }
    refine ⟨before, after, t, _, hts, hmod, rfl, by simp [hs, Stage.rank], ?_, ?_, ?_,
      fun _ h => (by cases h)⟩
    · simp [Floor.record, moveTo, Ticket.held, hs, Stage.holdsPermit]
    · simp [Ticket.recorded, hs]
    · cases outcome <;> simp [Floor.record, moveTo, Ticket.recorded, failureOf]

/-! ## What a floor accounts for -/

/-- Nothing is lost: the requests are those that came in, every permit is free or held, and the
failures are those of before with one for each request that is through and failed. Nothing but an
order to end the program has halted a request. -/
structure Accounted (tasks : List Task) (permits : Option Nat) (refused : Failures)
    (f : Floor) : Prop where
  tasks_eq : f.tickets.map (·.task) = tasks
  permits_eq : f.free.map (· + f.inFlight) = permits
  refused_prefix : refused <+: f.failures
  failures_perm : f.failures.Perm (refused ++ f.tickets.flatMap Ticket.recorded)
  order : ∀ t ∈ f.tickets, ∀ order, t.stage = .halted order → order.isInterrupt = true

variable {tasks : List Task} {permits : Option Nat} {refused : Failures} {f f' : Floor}

theorem inFlight_eq_sum (f : Floor) : f.inFlight = (f.tickets.map Ticket.held).sum := by
  unfold inFlight Ticket.held
  induction f.tickets with
  | nil => rfl
  | cons t ts ih => by_cases h : t.stage.holdsPermit = true <;> simp [h, ih, Nat.add_comm]

theorem todo_eq_sum (f : Floor) : f.todo = (f.tickets.map fun t => t.stage.rank).sum := by
  unfold todo
  induction f.tickets with
  | nil => rfl
  | cons t ts ih => simp [ih]

theorem inFlight_start (tasks : List Task) (permits : Option Nat) (refused : Failures) :
    (start tasks permits refused).inFlight = 0 := by
  simp [inFlight, start, List.countP_eq_zero, Stage.holdsPermit]

theorem recorded_start (tasks : List Task) (permits : Option Nat) (refused : Failures) :
    (start tasks permits refused).tickets.flatMap Ticket.recorded = [] := by
  simp only [start, List.flatMap_eq_nil_iff, List.mem_map]
  rintro t ⟨task, -, rfl⟩
  rfl

theorem accounted_start (tasks : List Task) (permits : Option Nat) (refused : Failures) :
    Accounted tasks permits refused (start tasks permits refused) where
  tasks_eq := by simp [start, Function.comp_def]
  permits_eq := by rw [inFlight_start]; simp [start]
  refused_prefix := List.prefix_rfl
  failures_perm := by rw [recorded_start, List.append_nil]; exact List.Perm.rfl
  order := by
    rintro t ht order hs
    obtain ⟨task, -, rfl⟩ := List.mem_map.mp ht
    cases hs

theorem Change.inFlight {before after : List Ticket} {t t' : Ticket}
    (h : Change f f' before after t t') :
    f'.inFlight + t.held = f.inFlight + t'.held := by
  simp only [inFlight_eq_sum, h.tickets, h.tickets', List.map_append, List.map_cons,
    List.sum_append, List.sum_cons]
  omega

/-- Every move takes at least one from what is left to do. -/
theorem Move.todo_lt (h : Move f f') : f'.todo < f.todo := by
  obtain ⟨before, after, t, t', hc⟩ := h.change
  have := hc.rank_lt
  simp only [todo_eq_sum, hc.tickets, hc.tickets', List.map_append, List.map_cons, List.sum_append,
    List.sum_cons]
  omega

/-- The step lemma: a move loses no permit and no failure. -/
theorem Accounted.move (h : Accounted tasks permits refused f) (hm : Move f f') :
    Accounted tasks permits refused f' := by
  obtain ⟨before, after, t, t', hc⟩ := hm.change
  refine ⟨?_, ?_, ?_, ?_, ?_⟩
  · rw [← h.tasks_eq, hc.tickets, hc.tickets']
    simp [hc.task]
  · have hfly := hc.inFlight
    have hfree := hc.permits
    rw [← h.permits_eq]
    cases hn : f.free <;> cases hn' : f'.free <;> simp_all
    omega
  · rw [hc.failures]
    exact h.refused_prefix.trans (List.prefix_append _ _)
  · have hold := h.failures_perm
    rw [hc.tickets] at hold
    rw [hc.failures, hc.tickets']
    simp only [List.flatMap_append, List.flatMap_cons, hc.unrecorded, List.nil_append] at hold ⊢
    -- what is recorded now comes last among the failures and stands at its ticket among the
    -- requests
    calc f.failures ++ t'.recorded
        |>.Perm ((refused ++ (before.flatMap Ticket.recorded ++
            after.flatMap Ticket.recorded)) ++ t'.recorded) :=
          hold.append_right _
      _ |>.Perm (refused ++ (before.flatMap Ticket.recorded ++
            (t'.recorded ++ after.flatMap Ticket.recorded))) := by
          simp only [List.append_assoc]
          exact (List.perm_append_comm.append_left _).append_left _
  · intro u hu
    rw [hc.tickets'] at hu
    rcases List.mem_append.mp hu with hu | hu
    · exact h.order u (hc.tickets ▸ List.mem_append_left _ hu)
    · rcases List.mem_cons.mp hu with rfl | hu
      · exact hc.order
      · exact h.order u (hc.tickets ▸ List.mem_append_right _ (List.mem_cons_of_mem _ hu))

/-- The run lemma. -/
theorem Accounted.moves (h : Accounted tasks permits refused f)
    (hr : Relation.ReflTransGen Move f f') : Accounted tasks permits refused f' := by
  induction hr with
  | refl => exact h
  | tail _ hm ih => exact ih.move hm

/-! ## A step is always there -/

theorem isSpared_start (tasks : List Task) (permits : Option Nat) (refused : Failures) :
    (start tasks permits refused).IsSpared := by
  rintro t ht
  obtain ⟨task, -, rfl⟩ := List.mem_map.mp ht
  rfl

theorem Reachable.moves (hr : Reachable f f') : Relation.ReflTransGen Move f f' :=
  Relation.ReflTransGen.mono (fun _ _ hs => hs.1) f f' hr

theorem Reachable.isSpared (h : f.IsSpared) (hr : Reachable f f') : f'.IsSpared := by
  induction hr with
  | refl => exact h
  | tail _ hs _ => exact hs.2

/-- Who has ended a pull without an order has none. -/
theorem hasOrder_afterPull {answer : Except Fault Bytes} (source : Text)
    (h : (Stage.pulling answer).hasOrder = false) :
    (afterPull source answer).hasOrder = false := by
  cases answer with
  | ok data => rfl
  | error fault =>
    have hfault : fault.isInterrupt = false := h
    simp [afterPull, afterFault, hfault, Stage.hasOrder]

/-- Only the ticket that moves may be told something new. -/
theorem isSpared_of_modify {i : Nat} {g : Ticket → Ticket} (h : f.IsSpared)
    (hf' : f'.tickets = f.tickets.modify i g)
    (hg : ∀ t, f.tickets[i]? = some t → (g t).stage.hasOrder = false) : f'.IsSpared := by
  intro t' ht'
  rw [hf'] at ht'
  obtain ⟨j, hj⟩ := List.mem_iff_getElem?.mp ht'
  rw [List.getElem?_modify] at hj
  obtain ⟨t, ht, hg'⟩ := Option.map_eq_some_iff.mp hj
  split at hg'
  · next heq =>
    subst heq hg'
    exact hg t ht
  · subst hg'
    exact h t (List.mem_of_getElem? ht)

theorem order?_eq_none_iff {f : Floor} :
    f.order? = none ↔ ∀ t ∈ f.tickets, t.stage.order? = none := List.findSome?_eq_none_iff

theorem exists_halted_of_order? {order : Fault} (h : f.order? = some order) :
    ∃ t ∈ f.tickets, t.stage = .halted order := by
  obtain ⟨t, ht, hs⟩ := List.exists_of_findSome?_eq_some h
  refine ⟨t, ht, ?_⟩
  cases hstage : t.stage <;> rw [hstage] at hs <;> cases hs
  rfl

/-- The order that has halted a floor is one to end the program. -/
theorem Accounted.isInterrupt (h : Accounted tasks permits refused f) {order : Fault}
    (ho : f.order? = some order) : order.isInterrupt = true := by
  obtain ⟨t, ht, hs⟩ := exists_halted_of_order? ho
  exact h.order t ht order hs

theorem IsSpared.order? (h : f.IsSpared) : f.order? = none := by
  refine order?_eq_none_iff.mpr fun t ht => ?_
  have hspared := h t ht
  cases hs : t.stage <;> simp_all [Stage.hasOrder, Stage.order?]

/-- A request that has its permit, or has had it, can go on at once, and needs no order for that. -/
theorem exists_move_of_mem {t : Ticket} (ho : f.order? = none) (h : t ∈ f.tickets)
    (hw : t.stage.isWaiting = false) (hu : t.isThrough = false) :
    ∃ f', Move f f' ∧ (f.IsSpared → f'.IsSpared) := by
  obtain ⟨i, ht⟩ := List.mem_iff_getElem?.mp h
  cases hs : t.stage with
  | waiting => simp [hs, Stage.isWaiting] at hw
  | pulling answer =>
    refine ⟨_, .endPull ht hs, fun hf => ?_⟩
    refine isSpared_of_modify hf rfl fun t' _ => hasOrder_afterPull _ ?_
    rw [← hs]
    exact hf t h
  | archiving data =>
    exact ⟨_, .endArchiving (.ok .noNewData) ht hs, fun hf =>
      isSpared_of_modify hf rfl fun _ _ => rfl⟩
  | settled outcome => exact ⟨_, .release ht hs, fun hf => isSpared_of_modify hf rfl fun _ _ => rfl⟩
  | released outcome => exact ⟨_, .record ht hs, fun hf => isSpared_of_modify hf rfl fun _ _ => rfl⟩
  | done outcome => simp [Ticket.isThrough, Stage.outcome?, hs] at hu
  | halted order => simpa [Stage.order?, hs] using order?_eq_none_iff.mp ho t h

/-- If all that are not through wait, no permit is held. -/
theorem inFlight_eq_zero (h : ∀ t ∈ f.tickets, t.stage.isWaiting = true ∨ t.isThrough = true) :
    f.inFlight = 0 := by
  refine List.countP_eq_zero.mpr fun t ht => ?_
  cases hs : t.stage <;> have := h t ht <;>
    simp_all [Stage.isWaiting, Ticket.isThrough, Stage.outcome?, Stage.holdsPermit]

/-- As long as a request is not through and no order has come, there is a move, if there is any
permit at all. -/
theorem Accounted.exists_move (h : Accounted tasks permits refused f) (ho : f.order? = none)
    (hc : permits ≠ some 0) {t : Ticket} (ht : t ∈ f.tickets) (hu : t.isThrough = false) :
    ∃ f', Move f f' ∧ (f.IsSpared → f'.IsSpared) := by
  by_cases hbusy : ∃ s ∈ f.tickets, s.stage.isWaiting = false ∧ s.isThrough = false
  · obtain ⟨s, hs, hw, hus⟩ := hbusy
    exact exists_move_of_mem ho hs hw hus
  · -- everybody left is waiting, so all permits are free
    have hidle : ∀ s ∈ f.tickets, s.stage.isWaiting = true ∨ s.isThrough = true := by
      intro s hs
      cases hw : s.stage.isWaiting with
      | true => exact Or.inl rfl
      | false =>
        cases hu' : s.isThrough with
        | true => exact Or.inr rfl
        | false => exact absurd ⟨s, hs, hw, hu'⟩ hbusy
    have hfree : f.hasFree = true := by
      have hp := h.permits_eq
      rw [inFlight_eq_zero hidle] at hp
      simp only [hasFree, bne_iff_ne, ne_eq]
      intro h0
      exact hc (by simpa [h0] using hp.symm)
    have hwaits : t.stage.isWaiting = true := (hidle t ht).resolve_right (by simp [hu])
    cases hi : f.tickets.findIdx? (fun t => t.stage.isWaiting) with
    | none => exact absurd hwaits (by simpa using List.findIdx?_eq_none_iff.mp hi t ht)
    | some i =>
      exact ⟨_, .takePermit ⟨0, .ok []⟩ hfree hi, fun hf =>
        isSpared_of_modify hf rfl fun _ _ => rfl⟩

theorem Accounted.exists_step (h : Accounted tasks permits refused f) (hf : f.IsSpared)
    (hc : permits ≠ some 0) {t : Ticket} (ht : t ∈ f.tickets) (hu : t.isThrough = false) :
    ∃ f', Step f f' := by
  obtain ⟨f', hm, hf'⟩ := h.exists_move hf.order? hc ht hu
  exact ⟨f', hm, hf' hf⟩

theorem isThrough_of_no_move (h : Accounted tasks permits refused f) (ho : f.order? = none)
    (hc : permits ≠ some 0) (hn : ¬ ∃ f', Move f f') : ∀ t ∈ f.tickets, t.isThrough = true := by
  intro t ht
  cases hu : t.isThrough with
  | true => rfl
  | false =>
    obtain ⟨f', hm, -⟩ := h.exists_move ho hc ht hu
    exact absurd ⟨f', hm⟩ hn

/-! ## What is gathered at the end -/

/-- A request that is through has one result. -/
theorem map_results_of_through (h : ∀ t ∈ f.tickets, t.isThrough = true) :
    f.results.map (·.1) = f.tickets.map (·.task.id) := by
  unfold results
  generalize f.tickets = ts at h
  induction ts with
  | nil => rfl
  | cons t ts ih =>
    obtain ⟨outcome, ho⟩ := Ticket.isThrough_iff.mp (h t List.mem_cons_self)
    have hts := ih fun s hs => h s (List.mem_cons_of_mem _ hs)
    simpa [ho, Stage.outcome?] using hts

/-- What the requests have recorded is what their results tell. -/
theorem map_recorded (f : Floor) :
    (f.tickets.flatMap Ticket.recorded).map (·.id) =
      (f.results.filter (·.2.isFailed)).map (·.1) := by
  unfold results
  induction f.tickets with
  | nil => rfl
  | cons t ts ih =>
    simp only [List.flatMap_cons, List.map_append, ih]
    cases hs : t.stage with
    | done outcome => cases outcome <;>
        simp [Ticket.recorded, failureOf, hs, Stage.outcome?, Outcome.isFailed]
    | _ => simp [Ticket.recorded, hs, Stage.outcome?]

/--
**The cap is kept and nobody is forgotten.**

Take a floor that any order of steps leads to. Free permits and requests in flight make up the cap;
as long as a request is not through there is a step, and steps run out; where there is none left,
every request has its result, in the order of the messages, and is listed once among the failures if
it failed.
-/
theorem cap_kept_and_never_stuck (tasks : List Task) (refused : Failures) {c : Nat}
    (hc : 1 ≤ c) {f : Floor} (hr : Reachable (start tasks (some c) refused) f) :
    (∃ n, f.free = some n ∧ n + f.inFlight = c) ∧ f.inFlight ≤ c ∧
      ((∃ t ∈ f.tickets, t.isThrough = false) → ∃ f', Step f f') ∧
      (∀ f', Step f f' → f'.todo < f.todo) ∧
      ((¬ ∃ f', Step f f') →
        f.results.map (·.1) = tasks.map (·.id) ∧ refused <+: f.failures ∧
          (f.failures.map (·.id)).Perm
            (refused.map (·.id) ++ (f.results.filter (·.2.isFailed)).map (·.1))) := by
  have hacc : Accounted tasks (some c) refused f :=
    (accounted_start ..).moves hr.moves
  have hf : f.IsSpared := hr.isSpared (isSpared_start _ _ _)
  have hpos : some c ≠ some 0 := by simpa using Nat.ne_of_gt hc
  have hsum : ∃ n, f.free = some n ∧ n + f.inFlight = c := by
    simpa [Option.map_eq_some_iff] using hacc.permits_eq
  refine ⟨hsum, ?_, ?_, fun f' hs => hs.1.todo_lt, ?_⟩
  · obtain ⟨n, -, hn⟩ := hsum
    omega
  · rintro ⟨t, ht, hu⟩
    exact hacc.exists_step hf hpos ht hu
  · intro hn
    have hall : ∀ t ∈ f.tickets, t.isThrough = true := by
      intro t ht
      by_contra hu
      exact hn (hacc.exists_step hf hpos ht (Bool.not_eq_true _ ▸ hu))
    refine ⟨?_, hacc.refused_prefix, ?_⟩
    · rw [map_results_of_through hall, ← hacc.tasks_eq, List.map_map]
      rfl
    · rw [← map_recorded, ← List.map_append]
      exact hacc.failures_perm.map _

/-- Two requests and one permit: while the first is being pulled nothing is free, and the pull can
end. -/
theorem one_permit_kept_by_two :
    let task : Task := ⟨.string (Text.ofString "m"), ⟨Text.ofString "s", []⟩, default⟩
    let f := (start [task, task] (some 1) []).takePermit 0 ⟨3, .error .noUrl⟩
    Reachable (start [task, task] (some 1) []) f ∧
      (∃ n, f.free = some n ∧ n + f.inFlight = 1) ∧ ∃ f', Step f f' := by
  intro task f
  have hr : Reachable (start [task, task] (some 1) []) f :=
    Relation.ReflTransGen.single
      ⟨.takePermit _ rfl rfl, isSpared_of_modify (isSpared_start _ _ _) rfl fun _ _ => rfl⟩
  obtain ⟨hsum, -, hstep, -⟩ := cap_kept_and_never_stuck [task, task] [] (Nat.le_refl 1) hr
  exact ⟨hr, hsum, hstep ⟨_, List.mem_cons_self, rfl⟩⟩

end Floor

end LogHarvest
