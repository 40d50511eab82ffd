import LogHarvest.Proofs.Batch.Ledger
import LogHarvest.Proofs.Batch.Schedule
import LogHarvest.Proofs.Shelf

/-!
# Batches in time

Seconds pass only where the next move is the end of a pull. `Floor.Timely` says what this makes of
a floor: those who have begun are on schedule, those who wait could not have begun earlier, and
failures are recorded in the order in which their pulls finish.

* `Timely.takePermit`, `Timely.endPull`, `Timely.goOn`: the step lemma, for each sort of move
-/

namespace LogHarvest

/-- The time for which a request holds its permit. -/
def Ticket.slot (t : Ticket) : Slot := ⟨t.start, t.finish⟩

/-- The pull has begun, is over if it was due before, and is not over before it is due. -/
structure Ticket.IsOnTime (t : Ticket) (now : Nat) : Prop where
  begun : t.stage.isWaiting = false
  start_le : t.start ≤ now
  due : t.isThrough = false → now ≤ t.finish
  past : t.stage.isPulling = false → t.finish ≤ now

namespace Stage

theorem holdsPermit_of_isPulling {stage : Stage} (h : stage.isPulling = true) :
    stage.holdsPermit = true := by
  cases stage <;> simp_all [isPulling, holdsPermit]

theorem isElse_of_isPulling {stage : Stage} (h : stage.isPulling = true) :
    stage.isInstant = false ∧ stage.isWaiting = false := by
  cases stage <;> simp_all [isPulling, isInstant, isWaiting]

theorem holdsPermit_of_isWaiting {stage : Stage} (h : stage.isWaiting = true) :
    stage.holdsPermit = false := by
  cases stage <;> simp_all [isWaiting, holdsPermit]

theorem isPulling_of_holdsPermit {stage : Stage} (h : stage.holdsPermit = true)
    (hinstant : stage.isInstant = false) (horder : stage.order? = none) :
    stage.isPulling = true := by
  cases stage <;> simp_all [isPulling, holdsPermit, isInstant, order?]

theorem isPulling_of_rest {stage : Stage} (hwaiting : stage.isWaiting = false)
    (hinstant : stage.isInstant = false) (horder : stage.order? = none)
    (hthrough : stage.outcome? = none) : stage.isPulling = true := by
  cases stage <;> simp_all [isPulling, isWaiting, isInstant, order?, outcome?]

theorem isOver_of_isInstant {stage : Stage} (h : stage.isInstant = true) :
    stage.isWaiting = false ∧ stage.isPulling = false ∧ stage.outcome? = none := by
  cases stage <;> simp_all [isInstant, isWaiting, isPulling, outcome?]

end Stage

/-- Whose slot covers the present time is being pulled. -/
theorem Ticket.IsOnTime.isPulling_of_covers {t : Ticket} {now : Nat} (h : t.IsOnTime now)
    (hcovers : t.slot.covers now = true) : t.stage.isPulling = true := by
  cases hpulling : t.stage.isPulling with
  | true => rfl
  | false =>
    exact absurd (Slot.covers_iff.mp hcovers).2 (Nat.not_lt_of_le (h.past hpulling))

/-- Time may go on as long as no pull is overdue. -/
theorem Ticket.IsOnTime.wait {t : Ticket} {now later : Nat} (h : t.IsOnTime now)
    (hlater : now ≤ later) (hdue : t.isThrough = false → later ≤ t.finish) : t.IsOnTime later where
  begun := h.begun
  start_le := h.start_le.trans hlater
  due := hdue
  past hpulling := (h.past hpulling).trans hlater

namespace Floor

variable {f : Floor} {i : Nat} {t : Ticket}

/-! ## When a pull ends -/

/-- Nobody is halted, and nobody can go on without time going on. -/
structure IsCalm (f : Floor) : Prop where
  order : ∀ t ∈ f.tickets, t.stage.order? = none
  instant : ∀ t ∈ f.tickets, t.stage.isInstant = false
  waiting : f.hasFree = true → ∀ t ∈ f.tickets, t.stage.isWaiting = false

theorem finish_le_of_earliest? {ts : List Ticket} (h : earliest? ts = some i)
    (ht : ts[i]? = some t) : ∀ s ∈ ts, s.stage.isPulling = true → t.finish ≤ s.finish := by
  intro s hs hpulling
  simp only [earliest?] at h
  split at h
  · cases h
  · next finish hmin =>
    have hfinish := holds_of_findIdx? h ht
    simp only [Bool.and_eq_true, beq_iff_eq] at hfinish
    have hmem : s.finish ∈ (ts.filter fun t => t.stage.isPulling).map (·.finish) :=
      List.mem_map_of_mem (List.mem_filter.mpr ⟨hs, hpulling⟩)
    rw [hfinish.2]
    exact (List.min?_eq_some_iff.mp hmin).2 _ hmem

/-- A pull only ends when nobody can go on otherwise, and then it is one that ends first. -/
theorem calm_of_next (h : f.next = some i) (ht : f.tickets[i]? = some t)
    (hpulling : t.stage.isPulling = true) :
    f.IsCalm ∧ ∀ s ∈ f.tickets, s.stage.isPulling = true → t.finish ≤ s.finish := by
  obtain ⟨hnotInstant, hnotWaiting⟩ := Stage.isElse_of_isPulling hpulling
  unfold next at h
  split at h
  · cases h
  next hnone =>
  have horder : ∀ t ∈ f.tickets, t.stage.order? = none := by
    simpa [order?] using hnone
  cases h1 : f.tickets.findIdx? fun t => t.stage.isInstant with
  | some j =>
    rw [h1] at h
    cases h
    exact absurd (holds_of_findIdx? h1 ht) (by simp [hnotInstant])
  | none =>
    have hinstant : ∀ t ∈ f.tickets, t.stage.isInstant = false := by
      simpa using List.findIdx?_eq_none_iff.mp h1
    rw [h1] at h
    by_cases hfree : f.hasFree = true
    · rw [if_pos hfree] at h
      cases h2 : f.tickets.findIdx? fun t => t.stage.isWaiting with
      | some j =>
        rw [h2] at h
        cases h
        exact absurd (holds_of_findIdx? h2 ht) (by simp [hnotWaiting])
      | none =>
        rw [h2] at h
        have hwaiting : ∀ t ∈ f.tickets, t.stage.isWaiting = false := by
          simpa using List.findIdx?_eq_none_iff.mp h2
        exact ⟨⟨horder, hinstant, fun _ => hwaiting⟩, finish_le_of_earliest? h ht⟩
    · rw [if_neg hfree] at h
      exact ⟨⟨horder, hinstant, fun htrue => absurd htrue hfree⟩, finish_le_of_earliest? h ht⟩

/-! ## Those who have begun and those who wait -/

/-- A ticket that has begun stands among those who have begun. -/
theorem split_of_begun {before after begun queue : List Ticket}
    (h : before ++ t :: after = begun ++ queue) (hqueue : ∀ s ∈ queue, s.stage.isWaiting = true)
    (ht : t.stage.isWaiting = false) :
    ∃ rest, begun = before ++ t :: rest ∧ after = rest ++ queue := by
  have hnot : t ∉ queue := by
    intro hmem
    rw [hqueue t hmem] at ht
    cases ht
  rcases List.append_eq_append_iff.mp h with ⟨rest, hbegun, hrest⟩ | ⟨rest, -, hrest⟩
  · cases rest with
    | nil =>
      rw [List.nil_append] at hrest
      exact absurd (hrest ▸ List.mem_cons_self) hnot
    | cons first rest =>
      obtain ⟨rfl, hafter⟩ := List.cons_eq_cons.mp hrest
      exact ⟨rest, hbegun, hafter⟩
  · exact absurd (hrest ▸ List.mem_append_right _ List.mem_cons_self) hnot

/-! ## On schedule -/

/-- Of the tickets some have begun and the others wait. Those who have begun are on schedule, with
pulls that take this long; while somebody waits, all permits have been held since the last start;
and failures were recorded in the order of the finishes. -/
structure Timely (permits : Option Nat) (refused : Failures) (f : Floor)
    (begun queue : List Ticket) (delays : List Nat) (order : List Ticket) : Prop where
  tickets : f.tickets = begun ++ queue
  waiting : ∀ t ∈ queue, t.stage.isWaiting = true
  onTime : ∀ t ∈ begun, t.IsOnTime f.now
  schedule : Schedule.IsListSchedule permits delays (begun.map Ticket.slot)
  busy : queue ≠ [] → ∀ time, Schedule.lastStart (begun.map Ticket.slot) ≤ time → time < f.now →
    Schedule.hasRoom permits (begun.map Ticket.slot) time = false
  clock : f.now ≤ Schedule.latest (begun.map Ticket.slot)
  through : order.Perm (begun.filter Ticket.isThrough)
  sorted : order.Pairwise fun t later => t.finish ≤ later.finish
  failures : f.failures = refused ++ order.flatMap Ticket.recorded

variable {permits : Option Nat} {tasks : List Task} {refused : Failures} {begun queue : List Ticket}
  {delays : List Nat} {order : List Ticket}

theorem timely_start (tasks : List Task) (permits : Option Nat) (refused : Failures) :
    Timely permits refused (start tasks permits refused) []
      (tasks.map fun task => ⟨task, .waiting, 0, 0⟩) [] [] where
  tickets := rfl
  waiting := by
    intro t ht
    obtain ⟨task, -, rfl⟩ := List.mem_map.mp ht
    rfl
  onTime := by simp
  schedule := .nil
  busy := fun _ time _ hnow => absurd hnow (Nat.not_lt_zero time)
  clock := Nat.le_refl _
  through := .refl _
  sorted := .nil
  failures := (List.append_nil _).symm

/-! ### Permits and slots -/

section

variable (h : Timely permits refused f begun queue delays order)

include h

/-- No more permits are held by the slots than by the requests. -/
theorem Timely.held_le : Schedule.held (begun.map Ticket.slot) f.now ≤ f.inFlight := by
  unfold Schedule.held inFlight
  rw [List.countP_map, h.tickets, List.countP_append]
  refine (List.countP_mono_left ?_).trans (Nat.le_add_right _ _)
  intro t ht hcovers
  exact Stage.holdsPermit_of_isPulling ((h.onTime t ht).isPulling_of_covers hcovers)

/-- Until the first pull ends, no fewer either. -/
theorem Timely.le_held (hcalm : f.IsCalm) {time : Nat} (hnow : f.now ≤ time)
    (hbefore : ∀ s ∈ f.tickets, s.stage.isPulling = true → time < s.finish) :
    f.inFlight ≤ Schedule.held (begun.map Ticket.slot) time := by
  have hqueue : queue.countP (fun t => t.stage.holdsPermit) = 0 := by
    rw [List.countP_eq_zero]
    intro t ht
    simp [Stage.holdsPermit_of_isWaiting (h.waiting t ht)]
  unfold Schedule.held inFlight
  rw [List.countP_map, h.tickets, List.countP_append, hqueue]
  refine List.countP_mono_left ?_
  intro t ht hholds
  have hmem : t ∈ f.tickets := by
    rw [h.tickets]
    exact List.mem_append_left _ ht
  have hpulling := Stage.isPulling_of_holdsPermit hholds (hcalm.instant t hmem)
    (hcalm.order t hmem)
  exact Slot.covers_iff.mpr
    ⟨(h.onTime t ht).start_le.trans hnow, hbefore t hmem hpulling⟩

variable (hpermits : f.free.map (· + f.inFlight) = permits)

include hpermits

/-- Where a permit is free, there is room. -/
theorem Timely.hasRoom_now (hfree : f.hasFree = true) :
    Schedule.hasRoom permits (begun.map Ticket.slot) f.now = true := by
  have hheld := h.held_le
  cases hf : f.free with
  | none =>
    rw [hf] at hpermits
    rw [← hpermits]
    rfl
  | some n =>
    have hn : n ≠ 0 := by simpa [hasFree, hf] using hfree
    rw [hf] at hpermits
    rw [← hpermits]
    simp only [Schedule.hasRoom, Option.map_some, Option.all_some, decide_eq_true_eq]
    omega

/-- Where none is free, there is none until the first pull ends. -/
theorem Timely.hasRoom_eq_false (hfree : f.hasFree = false) (hcalm : f.IsCalm) {time : Nat}
    (hnow : f.now ≤ time)
    (hbefore : ∀ s ∈ f.tickets, s.stage.isPulling = true → time < s.finish) :
    Schedule.hasRoom permits (begun.map Ticket.slot) time = false := by
  have hheld := h.le_held hcalm hnow hbefore
  have hf : f.free = some 0 := by simpa [hasFree] using hfree
  rw [hf] at hpermits
  rw [← hpermits]
  simp only [Schedule.hasRoom, Option.map_some, Option.all_some, decide_eq_false_iff_not]
  omega

/-- The next request starts as early as it can, if it starts now. -/
theorem Timely.isNextStart_now (hfree : f.hasFree = true) (hqueue : queue ≠ []) :
    Schedule.IsNextStart permits (begun.map Ticket.slot) f.now := by
  have hlast : Schedule.lastStart (begun.map Ticket.slot) ≤ f.now := by
    refine Schedule.lastStart_le ?_
    intro slot hslot
    obtain ⟨t, ht, rfl⟩ := List.mem_map.mp hslot
    exact (h.onTime t ht).start_le
  refine ⟨⟨hlast, h.hasRoom_now hpermits hfree⟩, ?_⟩
  rintro time ⟨htime, hroom⟩
  by_contra hlt
  rw [h.busy hqueue time htime (Nat.lt_of_not_le hlt)] at hroom
  cases hroom

end

/-! ### Moves -/

/-- The ticket that takes a permit is the first of those who wait. -/
theorem Timely.exists_first (h : Timely permits refused f begun queue delays order)
    (ht : f.tickets[i]? = some t)
    (hfirst : f.tickets.findIdx? (fun t => t.stage.isWaiting) = some i) (g : Ticket → Ticket) :
    ∃ rest, queue = t :: rest ∧ f.tickets.modify i g = begun ++ g t :: rest := by
  have hbegun : begun.findIdx? (fun t => t.stage.isWaiting) = none := by
    rw [List.findIdx?_eq_none_iff]
    exact fun t ht => (h.onTime t ht).begun
  rw [h.tickets, List.findIdx?_append, hbegun, Option.none_or] at hfirst
  cases queue with
  | nil => cases hfirst
  | cons first rest =>
    have hi : i = begun.length := by
      rw [List.findIdx?_cons, if_pos (h.waiting first List.mem_cons_self)] at hfirst
      simpa using hfirst.symm
    obtain rfl : first = t := by
      rw [h.tickets, hi, List.getElem?_append_right (Nat.le_refl _), Nat.sub_self] at ht
      exact Option.some.inj ht
    refine ⟨rest, rfl, ?_⟩
    rw [h.tickets, hi, List.modify_eq_take_drop, List.take_left, List.drop_left]
    rfl

/-- The step lemma, where a request takes a permit. -/
theorem Timely.takePermit (h : Timely permits refused f begun queue delays order)
    (hpermits : f.free.map (· + f.inFlight) = permits) (hfree : f.hasFree = true)
    (ht : f.tickets[i]? = some t)
    (hfirst : f.tickets.findIdx? (fun t => t.stage.isWaiting) = some i) (pull : Pull) :
    ∃ rest, queue = t :: rest ∧
      Timely permits refused (f.takePermit i pull)
        (begun ++ [⟨t.task, .pulling pull.answer, f.now, f.now + pull.seconds⟩]) rest
        (delays ++ [pull.seconds]) order := by
  obtain ⟨rest, rfl, hmod⟩ := h.exists_first ht hfirst fun t =>
    { t with stage := .pulling pull.answer, start := f.now, finish := f.now + pull.seconds }
  refine ⟨rest, rfl, ?_⟩
  have hstart := h.isNextStart_now hpermits hfree (List.cons_ne_nil t rest)
  refine ⟨?_, ?_, ?_, ?_, ?_, ?_, ?_, h.sorted, h.failures⟩
  · rw [List.append_assoc]
    exact hmod
  · exact fun s hs => h.waiting s (List.mem_cons_of_mem _ hs)
  · intro s hs
    rcases List.mem_append.mp hs with hbefore | hlast
    · exact h.onTime s hbefore
    · rw [List.mem_singleton.mp hlast]
      exact ⟨rfl, Nat.le_refl _, fun _ => Nat.le_add_right _ _, fun hnot => (by cases hnot)⟩
  · rw [List.map_append]
    exact h.schedule.concat pull.seconds hstart
  · -- the last start is now, and no time has gone since
    intro _ time hlast hnow
    rw [List.map_append, List.map_singleton, Schedule.lastStart_concat] at hlast
    exact absurd hnow (Nat.not_lt_of_le hlast)
  · rw [List.map_append]
    exact h.clock.trans (Schedule.latest_le_append _ _)
  · rw [List.filter_append]
    simpa [Ticket.isThrough, Stage.outcome?] using h.through

/-- A ticket that has begun goes on, and nobody else. -/
theorem Timely.exists_begun (h : Timely permits refused f begun queue delays order)
    (ht : f.tickets[i]? = some t) (hbegun : t.stage.isWaiting = false) (g : Ticket → Ticket) :
    ∃ before after, begun = before ++ t :: after ∧
      f.tickets.modify i g = (before ++ g t :: after) ++ queue := by
  obtain ⟨before, after, hsplit, hmod⟩ := exists_split_of_modify ht g
  obtain ⟨rest, hrest, rfl⟩ := split_of_begun (hsplit.symm.trans h.tickets) h.waiting hbegun
  refine ⟨before, rest, hrest, ?_⟩
  rw [hmod, List.append_assoc, List.cons_append]

theorem mem_of_replace {before after : List Ticket} {t t' s : Ticket}
    (h : s ∈ before ++ t' :: after) : s = t' ∨ s ∈ before ++ t :: after := by
  rcases List.mem_append.mp h with hbefore | hrest
  · exact Or.inr (List.mem_append_left _ hbefore)
  · rcases List.mem_cons.mp hrest with rfl | hafter
    · exact Or.inl rfl
    · exact Or.inr (List.mem_append_right _ (List.mem_cons_of_mem _ hafter))

/-- A begun ticket that is not through is not among those who have recorded. -/
theorem filter_replace {before after : List Ticket} {t : Ticket} (h : t.isThrough = false) :
    (before ++ t :: after).filter Ticket.isThrough =
      before.filter Ticket.isThrough ++ after.filter Ticket.isThrough := by
  rw [List.filter_append, List.filter_cons_of_neg (by simp [h])]

/-- The step lemma, where a pull ends. -/
theorem Timely.endPull (h : Timely permits refused f begun queue delays order)
    (hpermits : f.free.map (· + f.inFlight) = permits) (hcalm : f.IsCalm)
    (hleast : ∀ s ∈ f.tickets, s.stage.isPulling = true → t.finish ≤ s.finish)
    (ht : f.tickets[i]? = some t) {answer : Except Fault Bytes} (hs : t.stage = .pulling answer) :
    ∃ begun', begun'.map (·.task) = begun.map (·.task) ∧
      Timely permits refused (f.endPull i t answer) begun' queue delays order := by
  obtain ⟨before, after, rfl, hmod⟩ := h.exists_begun ht (by rw [hs]; rfl) fun s =>
    { s with stage := afterPull t.task.source answer }
  have hmem : t ∈ before ++ t :: after := List.mem_append_right _ List.mem_cons_self
  have hown := h.onTime t hmem
  have hnow : f.now ≤ t.finish := hown.due (by simp [Ticket.isThrough, hs, Stage.outcome?])
  have hclock : (f.endPull i t answer).now = t.finish := Nat.max_eq_right hnow
  obtain ⟨hwaiting, hthrough⟩ :=
    Stage.isElse_of_holdsPermit (isInHand_afterPull t.task.source answer).holdsPermit
  have hslots : (before ++ { t with stage := afterPull t.task.source answer } :: after).map
      Ticket.slot = (before ++ t :: after).map Ticket.slot := by simp [Ticket.slot]
  refine ⟨before ++ { t with stage := afterPull t.task.source answer } :: after, by simp, ?_⟩
  refine ⟨hmod, h.waiting, ?_, ?_, ?_, ?_, ?_, h.sorted, h.failures⟩
  · intro s hmem'
    rw [hclock]
    rcases mem_of_replace hmem' with rfl | hold
    · -- the pull that ends is over in time
      exact ⟨hwaiting, hown.start_le.trans hnow, fun _ => Nat.le_refl _, fun _ => Nat.le_refl _⟩
    · refine (h.onTime s hold).wait hnow ?_
      intro hthrough
      have hticket : s ∈ f.tickets := h.tickets ▸ List.mem_append_left _ hold
      exact hleast s hticket (Stage.isPulling_of_rest (h.onTime s hold).begun
        (hcalm.instant s hticket) (hcalm.order s hticket)
        (by simpa [Ticket.isThrough] using hthrough))
  · rw [hslots]
    exact h.schedule
  · intro hqueue time hlast htime
    rw [hslots] at hlast ⊢
    rw [hclock] at htime
    by_cases hearly : time < f.now
    · exact h.busy hqueue time hlast hearly
    · -- somebody waits, so no permit is free, and none will be before this pull ends
      have hfree : f.hasFree = false := by
        by_contra hne
        obtain ⟨s, hs⟩ := List.exists_mem_of_ne_nil queue hqueue
        have hwaits := hcalm.waiting (by simpa using hne) s
          (h.tickets ▸ List.mem_append_right _ hs)
        rw [h.waiting s hs] at hwaits
        cases hwaits
      exact h.hasRoom_eq_false hpermits hfree hcalm (Nat.le_of_not_lt hearly)
        fun s hs hpulling => Nat.lt_of_lt_of_le htime (hleast s hs hpulling)
  · rw [hclock, hslots]
    have hslot : t.slot ∈ (before ++ t :: after).map Ticket.slot := List.mem_map_of_mem hmem
    exact Schedule.le_latest hslot
  · have hnot : t.isThrough = false := by simp [Ticket.isThrough, hs, Stage.outcome?]
    have hnot' : ({ t with stage := afterPull t.task.source answer } : Ticket).isThrough =
        false := by
      rw [Ticket.isThrough, hthrough]
      rfl
    have hperm := h.through
    rw [filter_replace hnot] at hperm
    rwa [filter_replace hnot']

/-- Those who have recorded are through, and their pulls are over. -/
theorem Timely.finish_le_now (h : Timely permits refused f begun queue delays order) :
    ∀ s ∈ order, s.finish ≤ f.now := by
  intro s hs
  obtain ⟨hbegun, hthrough⟩ := List.mem_filter.mp (h.through.mem_iff.mp hs)
  obtain ⟨outcome, hdone⟩ := Ticket.isThrough_iff.mp hthrough
  exact (h.onTime s hbegun).past (by rw [hdone]; rfl)

/-- At the same time another ticket with the same slot may take the place of one. -/
theorem Timely.replace {before after : List Ticket} {t' : Ticket} {f' : Floor}
    {order' : List Ticket}
    (h : Timely permits refused f (before ++ t :: after) queue delays order)
    (hslot : t'.slot = t.slot) (htickets : f'.tickets = (before ++ t' :: after) ++ queue)
    (hnow : f'.now = f.now) (honTime : t'.IsOnTime f.now)
    (hthrough : order'.Perm ((before ++ t' :: after).filter Ticket.isThrough))
    (hsorted : order'.Pairwise fun t later => t.finish ≤ later.finish)
    (hfailures : f'.failures = refused ++ order'.flatMap Ticket.recorded) :
    Timely permits refused f' (before ++ t' :: after) queue delays order' := by
  have hslots : (before ++ t' :: after).map Ticket.slot =
      (before ++ t :: after).map Ticket.slot := by simp [hslot]
  refine ⟨htickets, h.waiting, ?_, hslots ▸ h.schedule, ?_, ?_, hthrough, hsorted, hfailures⟩
  · intro s hmem
    rw [hnow]
    rcases mem_of_replace hmem with rfl | hold
    · exact honTime
    · exact h.onTime s hold
  · rw [hslots, hnow]
    exact h.busy
  · rw [hslots, hnow]
    exact h.clock

/-- The step lemma, where a ticket whose pull is over goes on with no time in between. -/
theorem Timely.goOn (h : Timely permits refused f begun queue delays order)
    (ht : f.tickets[i]? = some t) (hinstant : t.stage.isInstant = true) {stage : Stage}
    (hwaiting : stage.isWaiting = false) {f' : Floor}
    (htickets : f'.tickets = f.tickets.modify i fun t => { t with stage := stage })
    (hnow : f'.now = f.now)
    (hfailures : f'.failures = f.failures ++ ({ t with stage := stage } : Ticket).recorded) :
    ∃ begun' order', begun'.map (·.task) = begun.map (·.task) ∧
      Timely permits refused f' begun' queue delays order' := by
  have hover := Stage.isOver_of_isInstant hinstant
  obtain ⟨before, after, rfl, hmod⟩ := h.exists_begun ht hover.1 fun t => { t with stage := stage }
  have hown := h.onTime t (List.mem_append_right _ List.mem_cons_self)
  have hnot : t.isThrough = false := by simpa [Ticket.isThrough] using hover.2.2
  have honTime : ({ t with stage := stage } : Ticket).IsOnTime f.now :=
    ⟨hwaiting, hown.start_le, fun _ => hown.due hnot, fun _ => hown.past hover.2.1⟩
  have hperm := h.through
  rw [filter_replace hnot] at hperm
  refine ⟨before ++ { t with stage := stage } :: after, ?_⟩
  cases hthrough : ({ t with stage := stage } : Ticket).isThrough with
  | false =>
    -- nothing is recorded yet
    have hnone : ({ t with stage := stage } : Ticket).recorded = [] :=
      Ticket.recorded_of_not_through hthrough
    refine ⟨order, by simp, h.replace rfl (htickets.trans hmod) hnow honTime ?_ h.sorted ?_⟩
    · rwa [filter_replace hthrough]
    · rw [hfailures, hnone, List.append_nil, h.failures]
  | true =>
    -- the pull of the ticket finishes now, so what it records comes last
    refine ⟨order ++ [{ t with stage := stage }], by simp,
      h.replace rfl (htickets.trans hmod) hnow honTime ?_ ?_ ?_⟩
    · rw [List.filter_append, List.filter_cons_of_pos hthrough]
      refine (hperm.append_right _).trans ?_
      rw [List.append_assoc]
      exact List.perm_append_comm.append_left _
    · rw [List.pairwise_append]
      refine ⟨h.sorted, List.pairwise_singleton _ _, ?_⟩
      intro s hs later hlater
      rw [List.mem_singleton.mp hlater]
      exact (h.finish_le_now s hs).trans (hown.due hnot)
    · rw [hfailures, h.failures, List.flatMap_append, List.flatMap_singleton, List.append_assoc]

/-! ### The end -/

/-- Where every request is through, nobody waits, all have recorded, and the time is that of the
latest finish. -/
theorem Timely.of_through (h : Timely permits refused f begun queue delays order)
    (hthrough : ∀ t ∈ f.tickets, t.isThrough = true) :
    begun = f.tickets ∧ queue = [] ∧ order.Perm f.tickets ∧
      f.now = Schedule.latest (f.tickets.map Ticket.slot) := by
  have hqueue : queue = [] := by
    rw [List.eq_nil_iff_forall_not_mem]
    intro t ht
    obtain ⟨outcome, hdone⟩ :=
      Ticket.isThrough_iff.mp (hthrough t (h.tickets ▸ List.mem_append_right _ ht))
    have hwaits := h.waiting t ht
    rw [hdone] at hwaits
    cases hwaits
  have hbegun : begun = f.tickets := by rw [h.tickets, hqueue, List.append_nil]
  have hperm : order.Perm f.tickets := by
    have hall := h.through
    rwa [hbegun, List.filter_eq_self.mpr hthrough] at hall
  refine ⟨hbegun, hqueue, hperm, Nat.le_antisymm (hbegun ▸ h.clock) ?_⟩
  refine Schedule.latest_le ?_
  intro slot hslot
  obtain ⟨t, ht, rfl⟩ := List.mem_map.mp hslot
  exact h.finish_le_now t (hperm.mem_iff.mpr ht)

end Floor

/-! ## From one moment to a later one -/

/-- What becomes of a ticket from a time on: its slot is fixed once it has begun, and if it begins
later, its slot does. -/
structure Ticket.Becomes (now : Nat) (t t' : Ticket) : Prop where
  task : t'.task = t.task
  begun : t.stage.isWaiting = false → t'.stage.isWaiting = false ∧ t'.slot = t.slot
  waiting : t.stage.isWaiting = true → t'.stage.isWaiting = true ∨ now ≤ t'.start

theorem Ticket.Becomes.refl (now : Nat) (t : Ticket) : t.Becomes now t where
  task := rfl
  begun h := ⟨h, rfl⟩
  waiting h := Or.inl h

theorem Ticket.Becomes.trans {now later : Nat} {t t' t'' : Ticket} (hlater : now ≤ later)
    (h : t.Becomes now t') (h' : t'.Becomes later t'') : t.Becomes now t'' where
  task := h'.task.trans h.task
  begun hbegun := by
    obtain ⟨hbegun', hslot⟩ := h.begun hbegun
    obtain ⟨hbegun'', hslot'⟩ := h'.begun hbegun'
    exact ⟨hbegun'', hslot'.trans hslot⟩
  waiting hwaiting := by
    cases hs : t'.stage.isWaiting with
    | true =>
      rcases h'.waiting hs with hwaits | hstart
      · exact Or.inl hwaits
      · exact Or.inr (hlater.trans hstart)
    | false =>
      -- it has begun in between, so its slot is fixed
      have hstart : t''.start = t'.start := congrArg Slot.start (h'.begun hs).2
      rcases h.waiting hwaiting with hwaits | hnow
      · rw [hs] at hwaits
        cases hwaits
      · exact Or.inr (hstart ▸ hnow)

namespace Floor

/-- From the first floor time goes on to the second one, and its tickets do. -/
structure Leads (f f' : Floor) : Prop where
  now_le : f.now ≤ f'.now
  tickets : List.Forall₂ (Ticket.Becomes f.now) f.tickets f'.tickets

theorem Leads.refl (f : Floor) : Leads f f where
  now_le := Nat.le_refl _
  tickets := List.forall₂_same.mpr fun t _ => .refl f.now t

theorem Leads.trans {f f' f'' : Floor} (h : Leads f f') (h' : Leads f' f'') : Leads f f'' where
  now_le := h.now_le.trans h'.now_le
  tickets := by
    have hlater := h.now_le
    have htickets' := h'.tickets
    generalize f''.tickets = last at htickets'
    have htickets := h.tickets
    generalize f.tickets = first, f'.tickets = second at htickets htickets'
    induction htickets generalizing last with
    | nil =>
      cases htickets'
      exact .nil
    | cons hhead _ ih =>
      cases htickets' with
      | cons hhead' hrest => exact .cons (hhead.trans hlater hhead') (ih _ hrest)

/-- A move that changes one ticket leads on, if the ticket does. -/
theorem leads_of_modify {f f' : Floor} {i : Nat} {t : Ticket} {g : Ticket → Ticket}
    (ht : f.tickets[i]? = some t) (htickets : f'.tickets = f.tickets.modify i g)
    (hnow : f.now ≤ f'.now) (hg : t.Becomes f.now (g t)) : Leads f f' where
  now_le := hnow
  tickets := by
    obtain ⟨before, after, hsplit, hmod⟩ := exists_split_of_modify ht g
    rw [htickets, hmod, hsplit]
    have hsame : ∀ ts : List Ticket, List.Forall₂ (Ticket.Becomes f.now) ts ts :=
      fun ts => List.forall₂_same.mpr fun t _ => .refl f.now t
    exact List.rel_append (hsame before) (.cons hg (hsame after))

theorem becomes_stage {now : Nat} {t : Ticket} {stage : Stage} (h : t.stage.isWaiting = false)
    (hstage : stage.isWaiting = false) : t.Becomes now { t with stage := stage } where
  task := rfl
  begun _ := ⟨hstage, rfl⟩
  waiting hwaiting := by
    rw [h] at hwaiting
    cases hwaiting

/-- Any move leads on. -/
theorem Move.leads {f f' : Floor} (h : Move f f') : Leads f f' := by
  cases h with
  | @takePermit i pull hfree hfirst =>
    obtain ⟨t, ht, hs⟩ := exists_waiting_of_findIdx? hfirst
    refine leads_of_modify ht rfl (Nat.le_refl _) ⟨rfl, ?_, fun _ => Or.inr (Nat.le_refl _)⟩
    intro hbegun
    rw [hs] at hbegun
    cases hbegun
  | @endPull i t answer ht hs =>
    exact leads_of_modify ht rfl (Nat.le_max_left _ _)
      (becomes_stage (by rw [hs]; rfl)
        (Stage.isElse_of_holdsPermit (isInHand_afterPull ..).holdsPermit).1)
  | endArchiving answer ht hs =>
    exact leads_of_modify ht rfl (Nat.le_refl _)
      (becomes_stage (by rw [hs]; rfl)
        (Stage.isElse_of_holdsPermit (isInHand_afterArchive ..).holdsPermit).1)
  | release ht hs =>
    exact leads_of_modify ht rfl (Nat.le_refl _) (becomes_stage (by rw [hs]; rfl) rfl)
  | record ht hs =>
    exact leads_of_modify ht rfl (Nat.le_refl _) (becomes_stage (by rw [hs]; rfl) rfl)

theorem leads_of_moves {f f' : Floor} (h : Relation.ReflTransGen Move f f') : Leads f f' := by
  induction h with
  | refl => exact .refl f
  | tail _ hmove ih => exact ih.trans hmove.leads

end Floor

/-- A ticket at a time fits its slot: the slot begins when the ticket stops waiting, and it is over
when the ticket gives its permit back. -/
structure Ticket.Fits (now : Nat) (t : Ticket) (slot : Slot) : Prop where
  waiting : t.stage.isWaiting = true → now ≤ slot.start
  held : t.stage.holdsPermit = true → slot.start ≤ now ∧ now ≤ slot.finish
  past : t.stage.isWaiting = false → t.stage.holdsPermit = false → slot.finish ≤ now

namespace Floor

/-- At every moment all tickets fit the slots that they have in the end. -/
theorem Timely.fits {f f' : Floor} {permits : Option Nat} {refused : Failures}
    {begun queue order : List Ticket} {delays : List Nat}
    (h : Timely permits refused f begun queue delays order) (hleads : Leads f f')
    (hbegun : ∀ t ∈ f'.tickets, t.stage.isWaiting = false) :
    List.Forall₂ (Ticket.Fits f.now) f.tickets (f'.tickets.map Ticket.slot) := by
  rw [List.forall₂_map_right_iff, List.forall₂_iff_get]
  refine ⟨hleads.tickets.length_eq, ?_⟩
  intro i hi hi'
  have hbecomes := hleads.tickets.get hi hi'
  have hend := hbegun _ (List.get_mem f'.tickets ⟨i, hi'⟩)
  have hmem := List.get_mem f.tickets ⟨i, hi⟩
  generalize f.tickets.get ⟨i, hi⟩ = t at hbecomes hmem
  generalize f'.tickets.get ⟨i, hi'⟩ = t' at hbecomes hend
  rw [h.tickets, List.mem_append] at hmem
  rcases hmem with hmem | hmem
  · have hown := h.onTime t hmem
    obtain ⟨-, hslot⟩ := hbecomes.begun hown.begun
    rw [hslot]
    refine ⟨?_, ?_, ?_⟩
    · intro hwaits
      rw [hown.begun] at hwaits
      cases hwaits
    · intro hholds
      exact ⟨hown.start_le, hown.due (Ticket.isThrough_eq_false_of_holdsPermit hholds)⟩
    · intro _ hfree
      refine hown.past ?_
      by_contra hpulling
      rw [Stage.holdsPermit_of_isPulling (by simpa using hpulling)] at hfree
      cases hfree
  · have hwaits := h.waiting t hmem
    have hstart := (hbecomes.waiting hwaits).resolve_left (by simp [hend])
    refine ⟨fun _ => hstart, ?_, ?_⟩
    · intro hholds
      rw [Stage.holdsPermit_of_isWaiting hwaits] at hholds
      cases hholds
    · intro hbegun'
      rw [hwaits] at hbegun'
      cases hbegun'

end Floor

end LogHarvest
