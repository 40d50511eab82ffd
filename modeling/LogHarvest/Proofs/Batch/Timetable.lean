import LogHarvest.Proofs.Archive.Outcomes
import LogHarvest.Proofs.Batch.Isolation
import LogHarvest.Proofs.Batch.Timing

/-!
# The timetable of a batch

A run moves its floor in the order of `Floor.next`, so its floors are timely (`run_inTime`). With
the pulls on record the timetable of a batch can be told from them: it is the list schedule of the
seconds that they took (`batch_follows_list_schedule`).
-/

namespace LogHarvest

variable {σ : Type}

/-- Whether a call is a pull. -/
def Call.isPull : Call → Bool
  | pull .. => true
  | _ => false

namespace Pipeline

variable (p : Pipeline σ) (services : Services σ)

/-! ## Pulls on record -/

/-- A task was pulled like this, and these calls were made for it; without a connector there is no
call, and no time is lost. -/
inductive Began (task : Task) : Pull → List Call → Prop
  | pulled {connector : Connector σ} {pull : Pull}
      (h : p.connectors.find task.route.type = .ok connector)
      (hpull : connector.Answers task.route pull) : Began task pull [.pull task.route pull]
  | unregistered {fault : Fault} (h : p.connectors.find task.route.type = .error fault) :
      Began task ⟨0, .error fault⟩ []

theorem Began.filter_isPull {task : Task} {pull : Pull} {calls : List Call}
    (h : p.Began task pull calls) : calls.filter Call.isPull = calls := by
  cases h <;> rfl

theorem begin_began (task : Task) (s : Scene (Recorded σ)) :
    ∃ calls, ((p.recorded.begin task).run s).2.calls = s.calls ++ calls ∧
      p.Began task ((p.recorded.begin task).run s).1 calls := by
  unfold Pipeline.begin
  rw [find_recorded]
  cases hfind : p.connectors.find task.route.type with
  | ok connector => exact ⟨_, rfl, .pulled hfind ⟨s.erase, rfl⟩⟩
  | error fault => exact ⟨[], (List.append_nil _).symm, .unregistered hfind⟩

/-- Archiving neither waits nor records anything. -/
theorem settle_isOver (data : Bytes) (source : Text) (s : Scene σ) :
    ((p.settle services data source).run s).1.isWaiting = false ∧
      ((p.settle services data source).run s).1.outcome? = none :=
  Stage.isElse_of_holdsPermit (Floor.isInHand_afterArchive ..).holdsPermit

/-- Archiving pulls nothing. -/
theorem settle_pulls_nothing (data : Bytes) (source : Text) (s : Scene (Recorded σ)) :
    ((p.recorded.settle services.recorded data source).run s).2.calls.filter Call.isPull =
      s.calls.filter Call.isPull := by
  obtain ⟨calls, hcalls, hsettles⟩ := p.settle_settles services data source s
  have hnone : calls.filter Call.isPull = [] := by
    generalize ((p.recorded.settle services.recorded data source).run s).1 = stage at hsettles
    cases hsettles with
    | settled harchiving => cases harchiving <;> rfl
    | halted hhalting => cases hhalting <;> rfl
  rw [hcalls, List.filter_append, hnone, List.append_nil]

/-! ## Floors in time -/

/-- The floor is timely, for the pulls that are on record so far. -/
structure InTime (tasks : List Task) (permits : Option Nat) (refused : Failures) (f : Floor)
    (s : Scene (Recorded σ)) : Prop where
  accounted : Floor.Accounted tasks permits refused f
  timely : ∃ begun queue order, ∃ rows : List (Pull × List Call),
    f.Timely permits refused begun queue (rows.map fun row => row.1.seconds) order ∧
    List.Forall₂ (fun task row => p.Began task row.1 row.2) (begun.map (·.task)) rows ∧
    s.calls.filter Call.isPull = rows.flatMap (·.2)

variable {p} {tasks : List Task} {permits : Option Nat} {refused : Failures}

theorem inTime_start (tasks : List Task) (permits : Option Nat) (refused : Failures)
    {s : Scene (Recorded σ)} (hs : s.calls = []) :
    p.InTime tasks permits refused (.start tasks permits refused) s where
  accounted := Floor.accounted_start tasks permits refused
  timely := ⟨[], _, [], [], Floor.timely_start tasks permits refused, .nil, by rw [hs]; rfl⟩

/-- A pull that begins is the next one on record. -/
theorem InTime.takePermit {f : Floor} {i : Nat} {t : Ticket} {pull : Pull} {calls : List Call}
    {s s' : Scene (Recorded σ)} (h : p.InTime tasks permits refused f s)
    (ht : f.tickets[i]? = some t) (hfree : f.hasFree = true)
    (hfirst : f.tickets.findIdx? (fun t => t.stage.isWaiting) = some i)
    (hbegan : p.Began t.task pull calls) (hcalls : s'.calls = s.calls ++ calls) :
    p.InTime tasks permits refused (f.takePermit i pull) s' := by
  obtain ⟨begun, queue, order, rows, htimely, hrows, hpulls⟩ := h.timely
  obtain ⟨rest, -, htimely'⟩ :=
    htimely.takePermit h.accounted.permits_eq hfree ht hfirst pull
  refine ⟨h.accounted.move (.takePermit pull hfree hfirst),
    begun ++ [⟨t.task, .pulling pull.answer, f.now, f.now + pull.seconds⟩], rest, order,
    rows ++ [(pull, calls)], ?_, ?_, ?_⟩
  · rw [List.map_append]
    exact htimely'
  · rw [List.map_append]
    exact List.rel_append hrows (.cons hbegan .nil)
  · rw [hcalls, List.filter_append, hpulls, List.flatMap_append, List.flatMap_singleton,
      hbegan.filter_isPull]

/-- Where no pull begins, the pulls on record stay. -/
theorem InTime.goOn {f f' : Floor} {i : Nat} {t : Ticket} {stage : Stage}
    {s s' : Scene (Recorded σ)} (h : p.InTime tasks permits refused f s)
    (hmove : Floor.Move f f') (ht : f.tickets[i]? = some t) (hinstant : t.stage.isInstant = true)
    (hwaiting : stage.isWaiting = false)
    (htickets : f'.tickets = f.tickets.modify i fun t => { t with stage := stage })
    (hnow : f'.now = f.now)
    (hfailures : f'.failures = f.failures ++ ({ t with stage := stage } : Ticket).recorded)
    (hcalls : s'.calls.filter Call.isPull = s.calls.filter Call.isPull) :
    p.InTime tasks permits refused f' s' := by
  obtain ⟨begun, queue, order, rows, htimely, hrows, hpulls⟩ := h.timely
  obtain ⟨begun', order', htasks, htimely'⟩ :=
    htimely.goOn ht hinstant hwaiting htickets hnow hfailures
  exact ⟨h.accounted.move hmove, begun', queue, order', rows, htimely', htasks ▸ hrows,
    hcalls.trans hpulls⟩

/-- The step lemma: the next move keeps the floor in time. -/
theorem InTime.move {f : Floor} {i : Nat} {t : Ticket} {s : Scene (Recorded σ)}
    (h : p.InTime tasks permits refused f s) (hnext : f.next = some i)
    (ht : f.tickets[i]? = some t) :
    p.InTime tasks permits refused ((p.recorded.move services.recorded f i t).run s).1
      ((p.recorded.move services.recorded f i t).run s).2 := by
  obtain ⟨t', ht', hisNext⟩ := Floor.exists_of_next hnext
  cases ht.symm.trans ht'
  have hmove := p.recorded.move_next services.recorded hisNext ht s
  obtain ⟨begun, queue, order, rows, htimely, hrows, hpulls⟩ := h.timely
  unfold Pipeline.move at hmove ⊢
  cases hs : t.stage with
  | waiting =>
    obtain ⟨hfree, hfirst⟩ := hisNext.of_waiting hs
    obtain ⟨calls, hcalls, hbegan⟩ := p.begin_began t.task s
    exact h.takePermit ht hfree hfirst hbegan hcalls
  | pulling answer =>
    rw [hs] at hmove
    obtain ⟨hcalm, hleast⟩ := Floor.calm_of_next hnext ht (by rw [hs]; rfl)
    obtain ⟨begun', htasks, htimely'⟩ :=
      htimely.endPull h.accounted.permits_eq hcalm hleast ht hs
    exact ⟨h.accounted.move hmove, begun', queue, order, rows, htimely', htasks ▸ hrows, hpulls⟩
  | archiving data =>
    rw [hs] at hmove
    obtain ⟨hwaiting, hnone⟩ :=
      p.recorded.settle_isOver services.recorded data t.task.source s
    refine h.goOn hmove ht (by rw [hs]; rfl) hwaiting rfl rfl ?_
      (p.settle_pulls_nothing services data t.task.source s)
    rw [Ticket.recorded_of_not_through (by rw [Ticket.isThrough, hnone]; rfl), List.append_nil]
    rfl
  | settled outcome =>
    rw [hs] at hmove
    exact h.goOn hmove ht (by rw [hs]; rfl) rfl rfl rfl (List.append_nil _).symm rfl
  | released outcome =>
    rw [hs] at hmove
    exact h.goOn hmove ht (by rw [hs]; rfl) rfl rfl rfl rfl rfl
  | done _ | halted _ => simpa [hs, Stage.rank] using hisNext.rank_pos ht

/-- The run lemma. -/
theorem InTime.moves {f : Floor} {s : Scene (Recorded σ)} (h : p.InTime tasks permits refused f s)
    (n : Nat) :
    p.InTime tasks permits refused ((p.recorded.moves services.recorded n f).run s).1
      ((p.recorded.moves services.recorded n f).run s).2 :=
  p.recorded.moves_keeps_of_next services.recorded
    (fun _ _ _ _ hnext ht hf => hf.move services hnext ht) n h

variable (p)

/-- With pulls on record the floors of a run are the same. -/
theorem moves_recorded (n : Nat) (f : Floor) (s : Scene (Recorded σ)) :
    ((p.recorded.moves services.recorded n f).run s).1 =
      ((p.moves services n f).run s.erase).1 := by
  have hsame : ∀ f : Floor, f.withEarlier [] = f := fun f => rfl
  have hmoves := ((p.linked_recorded services).moves [] n f (rfl : s.erase = s.erase)).1
  rw [hsame, hsame] at hmoves
  exact hmoves.symm

/-- A run may be stopped on the way. -/
theorem moves_add (n m : Nat) (f : Floor) (s : Scene σ) :
    (p.moves services (n + m) f).run s =
      (p.moves services m ((p.moves services n f).run s).1).run
        ((p.moves services n f).run s).2 := by
  induction n generalizing f s with
  | zero =>
    rw [Nat.zero_add]
    rfl
  | succ n ih =>
    rw [Nat.succ_add]
    cases hnext : f.next.bind fun i => f.tickets[i]?.map fun t => (i, t) with
    | none =>
      -- without a next move it stands still
      have hstill : ∀ k, (p.moves services k f).run s = (f, s) := by
        intro k
        cases k with
        | zero => rfl
        | succ k => simp only [Pipeline.moves, hnext]; rfl
      rw [hstill, hstill, hstill]
    | some it =>
      simp only [Pipeline.moves, hnext, StateT.run_bind]
      exact ih _ _

/-! ## The clock -/

/-- Archiving asks the services and writes lines, and leaves the rest of the scene alone. -/
theorem settle_frame (data : Bytes) (source : Text) (s : Scene σ) :
    ∃ outside lines, ((p.settle services data source).run s).2 =
      { s with outside := outside, lines := lines } := by
  show ∃ outside lines, ((p.writer.archive services data source).runOn s).2 =
    { s with outside := outside, lines := lines }
  by_cases hdata : data = []
  · rw [hdata, ArchiveWriter.runOn_archive_nil]
    exact ⟨_, _, rfl⟩
  · rcases ArchiveWriter.taken_or_hindered p.writer services source data s with
      ⟨body, hbody, htaken⟩ | ⟨fault, s', hhindered⟩
    · rw [ArchiveWriter.runOn_archive_of_body services hdata hbody source s htaken]
      exact ⟨_, _, rfl⟩
    · obtain ⟨outside, lines, rfl⟩ : ∃ outside lines,
          s' = { s with outside := outside, lines := lines } := by
        cases hhindered <;> exact ⟨_, _, rfl⟩
      cases hline : ArchiveWriter.errorLine? (ArchiveWriter.drawnKey services source s) fault with
      | none =>
        rw [ArchiveWriter.runOn_archive_of_escape hdata hhindered hline]
        exact ⟨_, _, rfl⟩
      | some line =>
        rw [ArchiveWriter.runOn_archive_of_hindered hdata hhindered hline]
        exact ⟨_, _, rfl⟩

/-- Pulls leave the clock alone; they tell how long they take. -/
def KeepsClock : Prop := ∀ task s, ((p.begin task).run s).2.clock = s.clock

theorem clock_settle (data : Bytes) (source : Text) (s : Scene σ) :
    ((p.settle services data source).run s).2.clock = s.clock := by
  obtain ⟨outside, lines, hframe⟩ := p.settle_frame services data source s
  rw [hframe]

/-- The clock goes on with the time of the floor. -/
theorem move_clock (hclock : p.KeepsClock) {start : Nat} (f : Floor) (i : Nat) (t : Ticket)
    (s : Scene σ) (h : s.clock = start + f.now) :
    ((p.move services f i t).run s).2.clock = start + ((p.move services f i t).run s).1.now := by
  unfold Pipeline.move
  cases t.stage with
  | waiting => exact (hclock t.task s).trans h
  | pulling answer =>
    show s.clock + (t.finish - f.now) = start + max f.now t.finish
    omega
  | archiving data => exact (p.clock_settle services data t.task.source s).trans h
  | settled outcome => exact h
  | released outcome => exact h
  | done _ | halted _ => exact h

theorem moves_clock (hclock : p.KeepsClock) (n : Nat) {f : Floor} {s : Scene σ}
    (hnow : f.now = 0) :
    ((p.moves services n f).run s).2.clock = s.clock + ((p.moves services n f).run s).1.now :=
  p.moves_keeps services (P := fun f' s' => s'.clock = s.clock + f'.now)
    (fun f i t s _ h => p.move_clock services hclock f i t s h) n (by rw [hnow]; rfl)

/-! ## The timetable -/

/-- The floor on which a batch with these verdicts begins. -/
def opened (verdicts : List Verdict) : Floor := dispatch verdicts (p.cap.map Int.toNat)

/-- Where a batch is after so many moves. -/
def moment (verdicts : List Verdict) (scene : Scene σ) (n : Nat) : Floor × Scene σ :=
  (p.moves services n (p.opened verdicts)).run (scene.write (opening verdicts))

/-- Where a batch is in the end. -/
def lastMoment (verdicts : List Verdict) (scene : Scene σ) : Floor × Scene σ :=
  p.moment services verdicts scene (p.opened verdicts).todo

theorem permits_ne_zero {cap : Option Int} (hcap : ∀ n, cap = some n → 1 ≤ n) :
    cap.map Int.toNat ≠ some 0 := by
  cases cap with
  | none => simp
  | some n =>
    have hn := hcap n rfl
    simp only [Option.map_some, ne_eq, Option.some.injEq]
    omega

/-- The record of a batch after so many moves. -/
def recordAt (verdicts : List Verdict) (scene : Scene σ) (n : Nat) : Scene (Recorded σ) :=
  ((p.recorded.moves services.recorded n (p.opened verdicts)).run
    ((scene.recording []).write (opening verdicts))).2

/-- Every moment is timely, for the pulls that are on record by then. -/
theorem inTime_moment (verdicts : List Verdict) (scene : Scene σ) (n : Nat) :
    p.InTime (verdicts.filterMap Verdict.task?) (p.cap.map Int.toNat)
      (verdicts.filterMap Verdict.failure?) (p.moment services verdicts scene n).1
      (p.recordAt services verdicts scene n) := by
  have hstart : p.InTime (verdicts.filterMap Verdict.task?) (p.cap.map Int.toNat)
      (verdicts.filterMap Verdict.failure?) (p.opened verdicts)
      ((scene.recording []).write (opening verdicts)) := inTime_start _ _ _ rfl
  have hmoment := hstart.moves services n
  rw [moves_recorded] at hmoment
  exact hmoment

section

variable {services} (hp : p.IsUninterrupted services) {messages : List Message}
  {verdicts : List Verdict} (hcap : ∀ n, p.cap = some n → 1 ≤ n) (scene : Scene σ)

include hp hcap

/-- In the end every request is through. -/
theorem isThrough_lastMoment :
    ∀ t ∈ (p.lastMoment services verdicts scene).1.tickets, t.isThrough = true :=
  (p.run_spec services (verdicts.filterMap Verdict.failure?)
    (fun h0 => absurd h0 (permits_ne_zero hcap)) (scene.write (opening verdicts)) rfl).2
    (hp.run ..)

/-- At every moment the tickets fit the slots that they have in the end. -/
theorem fits_moment {n : Nat} (hn : n ≤ (p.opened verdicts).todo) :
    List.Forall₂ (Ticket.Fits (p.moment services verdicts scene n).1.now)
      (p.moment services verdicts scene n).1.tickets
      ((p.lastMoment services verdicts scene).1.tickets.map Ticket.slot) := by
  obtain ⟨begun, queue, order, rows, htimely, -, -⟩ :=
    (p.inTime_moment services verdicts scene n).timely
  obtain ⟨m, hm⟩ := Nat.exists_eq_add_of_le hn
  have hlast : p.lastMoment services verdicts scene =
      (p.moves services m (p.moment services verdicts scene n).1).run
        (p.moment services verdicts scene n).2 := by
    rw [lastMoment, moment, hm, moves_add]
    rfl
  refine htimely.fits ?_ ?_
  · rw [hlast]
    exact Floor.leads_of_moves (p.moves_spec services m _ _).1
  · intro t ht
    obtain ⟨outcome, hdone⟩ :=
      Ticket.isThrough_iff.mp (p.isThrough_lastMoment hp hcap scene t ht)
    rw [hdone]
    rfl

variable [Json.Limits] (hjudged : Verdict.Judged p.routing messages verdicts)

include hjudged

/-- What comes of a batch is read off its last moment. -/
theorem process_of_lastMoment :
    (p.process services messages).runOn scene =
      (.ok ⟨(p.lastMoment services verdicts scene).1.failures.report,
        verdicts.filterMap Verdict.failure?, (p.lastMoment services verdicts scene).1⟩,
        (p.lastMoment services verdicts scene).2.write
          (closing (p.lastMoment services verdicts scene).1)) :=
  hp.process hjudged (permits_of_cap hcap (verdicts.filterMap Verdict.task?)) rfl

/-- In the end the tickets are on schedule, for the pulls that the batch has made. -/
theorem exists_timely_lastMoment : ∃ order, ∃ rows : List (Pull × List Call),
    (p.lastMoment services verdicts scene).1.Timely (p.cap.map Int.toNat)
      (verdicts.filterMap Verdict.failure?) (p.lastMoment services verdicts scene).1.tickets []
      (rows.map fun row => row.1.seconds) order ∧
    (p.lastMoment services verdicts scene).1.tickets.map (·.task) =
      verdicts.filterMap Verdict.task? ∧
    List.Forall₂ (fun task row => p.Began task row.1 row.2) (verdicts.filterMap Verdict.task?)
      rows ∧
    (p.calls services messages scene).filter Call.isPull = rows.flatMap (·.2) := by
  have hinTime := p.inTime_moment services verdicts scene (p.opened verdicts).todo
  obtain ⟨begun, queue, order, rows, htimely, hrows, hpulls⟩ := hinTime.timely
  obtain ⟨rfl, rfl, -, -⟩ := htimely.of_through (p.isThrough_lastMoment hp hcap scene)
  have htasks := hinTime.accounted.tasks_eq
  have hcalls : p.calls services messages scene =
      (p.recordAt services verdicts scene (p.opened verdicts).todo).calls := by
    -- with pulls on record nobody is told to end the program either
    have hsame := p.moves_recorded services (p.opened verdicts).todo (p.opened verdicts)
      ((scene.recording []).write (opening verdicts))
    have horder := hp.run (verdicts.filterMap Verdict.task?) (p.cap.map Int.toNat)
      (verdicts.filterMap Verdict.failure?) (scene.write (opening verdicts))
    rw [calls, p.recorded.process_of_judged services.recorded hjudged
      (permits_of_cap hcap (verdicts.filterMap Verdict.task?)) rfl
      ((congrArg Floor.order? hsame).trans horder)]
    exact Scene.calls_write _ _
  exact ⟨order, rows, htimely, htasks, htasks ▸ hrows, hcalls ▸ hpulls⟩

end

/-- The timetable of a batch. The rows tell what the pulls came to, in the order of the requests,
with the calls that they made; the tickets are also given in the order in which they were through.
-/
structure IsTimetable [Json.Limits] (messages : List Message) (verdicts : List Verdict)
    (scene : Scene σ) (result : BatchResult) (rows : List (Pull × List Call))
    (order : List Ticket) : Prop where
  /-- There is a ticket for each request, in the order of the messages. -/
  tasks : result.floor.tickets.map (·.task) = verdicts.filterMap Verdict.task?
  /-- Each request has been pulled, in the order of the messages. -/
  pulls : List.Forall₂ (fun task row => p.Began task row.1 row.2)
    (verdicts.filterMap Verdict.task?) rows
  calls : (p.calls services messages scene).filter Call.isPull = rows.flatMap (·.2)
  /-- Each request starts as early as it can, and its slot is as long as its pull. -/
  schedule : Schedule.IsListSchedule (p.cap.map Int.toNat) (rows.map fun row => row.1.seconds)
    (result.floor.tickets.map Ticket.slot)
  /-- At every moment the permits are held by those whose slots say so. -/
  moments : ∀ n ≤ (p.opened verdicts).todo,
    List.Forall₂ (Ticket.Fits (p.moment services verdicts scene n).1.now)
      (p.moment services verdicts scene n).1.tickets (result.floor.tickets.map Ticket.slot)
  /-- The batch ends at the latest finish. -/
  finish : result.floor.now = Schedule.latest (result.floor.tickets.map Ticket.slot)
  /-- Those who failed before the first pull are reported first, in the order of the messages, and
  behind them the others, in the order of their finishes. -/
  perm : order.Perm result.floor.tickets
  sorted : order.Pairwise fun t later => t.finish ≤ later.finish
  report : result.report =
    Failures.report (verdicts.filterMap Verdict.failure? ++ order.flatMap Ticket.recorded)

/--
**A batch follows the list schedule of its delays.**

Take any messages that get their verdicts, any cap, and pulls that take any number of seconds and
end in any way short of an order to end the program. The batch comes to a result, and its slots are
the list schedule of the seconds that the pulls took: pulls start in the order of the messages, each
one as soon as, after the one ahead of it has started, fewer requests hold a permit than the cap
allows, and all at once where there is no cap; each holds its permit for as long as it takes. The
batch ends at the latest finish, and the report lists those who failed before the first pull, in the
order of the messages, and behind them those who failed later, in the order of their finishes. If
pulls leave the clock alone, the clock goes along with all this.
-/
theorem batch_follows_list_schedule [Json.Limits] (hp : p.IsUninterrupted services)
    {messages : List Message} {verdicts : List Verdict}
    (hjudged : Verdict.Judged p.routing messages verdicts)
    (hcap : ∀ n, p.cap = some n → 1 ≤ n) (scene : Scene σ) :
    ∃ result scene' rows order, (p.process services messages).runOn scene = (.ok result, scene') ∧
      p.IsTimetable services messages verdicts scene result rows order ∧
      result.floor.tickets.map Ticket.slot =
        Schedule.ofDelays (p.cap.map Int.toNat) (rows.map fun row => row.1.seconds) ∧
      (result.floor.tickets.map Ticket.slot).Pairwise (fun slot later => slot.start ≤ later.start) ∧
      (p.cap = none → ∀ t ∈ result.floor.tickets, t.start = 0) ∧
      (p.KeepsClock →
        (∀ n, (p.moment services verdicts scene n).2.clock =
          scene.clock + (p.moment services verdicts scene n).1.now) ∧
        scene'.clock = scene.clock + result.floor.now) := by
  obtain ⟨order, rows, htimely, htasks, hrows, hpulls⟩ :=
    p.exists_timely_lastMoment hp hcap scene hjudged
  obtain ⟨-, -, hperm, hfinish⟩ := htimely.of_through (p.isThrough_lastMoment hp hcap scene)
  have hschedule := htimely.schedule
  have hreport := congrArg Failures.report htimely.failures
  refine ⟨_, _, rows, order, p.process_of_lastMoment hp hcap scene hjudged,
    ⟨htasks, hrows, hpulls, hschedule, fun n hn => p.fits_moment hp hcap scene hn, hfinish,
      hperm, htimely.sorted, hreport⟩,
    hschedule.eq_ofDelays (permits_ne_zero hcap), hschedule.pairwise_start, ?_, ?_⟩
  · intro hnone t ht
    rw [hnone] at hschedule
    exact hschedule.start_eq_zero t.slot (List.mem_map_of_mem ht)
  · intro hclock
    have hmoments : ∀ n, (p.moment services verdicts scene n).2.clock =
        scene.clock + (p.moment services verdicts scene n).1.now :=
      fun n => p.moves_clock services hclock n rfl
    exact ⟨hmoments, hmoments _⟩

attribute [local instance] Platform.builtIn

/-- One permit for two requests, with a message between them that is no request. -/
theorem two_requests_one_after_the_other :
    let messages := [Shelf.request "a" "ok", Shelf.message "b" (Text.ofString "oops"),
      Shelf.request "c" "idle"]
    (Shelf.pipeline (some 1)).IsUninterrupted Shelf.services ∧
    ∃ verdicts result scene' rows order,
      Verdict.Judged (Shelf.pipeline (some 1)).routing messages verdicts ∧
      ((Shelf.pipeline (some 1)).process Shelf.services messages).runOn (.start (.empty [])) =
        (.ok result, scene') ∧
      (Shelf.pipeline (some 1)).IsTimetable Shelf.services messages verdicts (.start (.empty []))
        result rows order ∧
      result.floor.tickets.map Ticket.slot = [⟨0, 1⟩, ⟨1, 2⟩] := by
  intro messages
  obtain ⟨first, hfirst⟩ := exists_of_isOk (e := Verdict.ofMessage
    (Shelf.pipeline (some 1)).routing (Shelf.request "a" "ok")) (by cbv)
  obtain ⟨second, hsecond⟩ := exists_of_isOk (e := Verdict.ofMessage
    (Shelf.pipeline (some 1)).routing (Shelf.message "b" (Text.ofString "oops"))) (by cbv)
  obtain ⟨third, hthird⟩ := exists_of_isOk (e := Verdict.ofMessage
    (Shelf.pipeline (some 1)).routing (Shelf.request "c" "idle")) (by cbv)
  have hjudged : Verdict.Judged (Shelf.pipeline (some 1)).routing messages
      [first, second, third] := .cons hfirst (.cons hsecond (.cons hthird .nil))
  have hcap : ∀ n, (Shelf.pipeline (some 1)).cap = some n → 1 ≤ n := by
    rintro n ⟨⟩
    exact Int.le_refl 1
  obtain ⟨result, scene', rows, order, hrun, htable, -⟩ :=
    (Shelf.pipeline (some 1)).batch_follows_list_schedule Shelf.services
      (Shelf.isUninterrupted _) hjudged hcap (.start (.empty []))
  refine ⟨Shelf.isUninterrupted _, _, result, scene', rows, order, hjudged, hrun, htable, ?_⟩
  have hslots : (((Shelf.pipeline (some 1)).process Shelf.services messages).runOn
      (.start (.empty []))).1.toOption.map (fun result => result.floor.tickets.map Ticket.slot) =
        some [⟨0, 1⟩, ⟨1, 2⟩] := by cbv
  rw [hrun] at hslots
  exact Option.some.inj hslots

end Pipeline

end LogHarvest
