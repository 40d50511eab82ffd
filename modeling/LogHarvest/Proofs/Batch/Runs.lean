import LogHarvest.Proofs.Activity
import LogHarvest.Proofs.Batch.Steps
import Mathlib.Data.List.Forall2

/-!
# The run of a batch

A pipeline moves its floor in the order of `Floor.next`. That is one of the orders of `Floor.Move`,
it ends where no move is left or an order to end the program has come, and so all that holds in
every order holds of a batch.
-/

namespace LogHarvest

namespace Floor

variable {f f' : Floor} {i : Nat} {t : Ticket}

/-! ## The next move is a move -/

/-- Why a ticket is the next one: it takes no time, it is the first that waits and a permit is free,
or its pull ends first. -/
inductive IsNext (f : Floor) (i : Nat) (t : Ticket) : Prop
  | instant (h : t.stage.isInstant = true)
  | waiting (hfree : f.hasFree = true)
      (hfirst : f.tickets.findIdx? (fun t => t.stage.isWaiting) = some i)
  | pulling (h : t.stage.isPulling = true)

theorem exists_of_findIdx? {ts : List Ticket} {q : Ticket → Bool} (h : ts.findIdx? q = some i) :
    ∃ t, ts[i]? = some t ∧ q t = true := by
  obtain ⟨hi, hq, -⟩ := List.findIdx?_eq_some_iff_getElem.mp h
  exact ⟨ts[i], List.getElem?_eq_getElem hi, hq⟩

theorem holds_of_findIdx? {ts : List Ticket} {q : Ticket → Bool} (h : ts.findIdx? q = some i)
    (ht : ts[i]? = some t) : q t = true := by
  obtain ⟨t', ht', hq⟩ := exists_of_findIdx? h
  cases ht.symm.trans ht'
  exact hq

theorem exists_of_earliest? {ts : List Ticket} (h : earliest? ts = some i) :
    ∃ t, ts[i]? = some t ∧ t.stage.isPulling = true := by
  simp only [earliest?] at h
  split at h
  · cases h
  · obtain ⟨t, ht, hq⟩ := exists_of_findIdx? h
    simp only [Bool.and_eq_true] at hq
    exact ⟨t, ht, hq.1⟩

/-- A ticket that waits is next only where a permit is free, and only as the first one. -/
theorem IsNext.of_waiting (hn : IsNext f i t) (hs : t.stage = .waiting) :
    f.hasFree = true ∧ f.tickets.findIdx? (fun t => t.stage.isWaiting) = some i := by
  cases hn with
  | instant h => simp [hs, Stage.isInstant] at h
  | waiting hfree hfirst => exact ⟨hfree, hfirst⟩
  | pulling h => simp [hs, Stage.isPulling] at h

/-- The next ticket has something left to do. -/
theorem IsNext.rank_pos (hn : IsNext f i t) (ht : f.tickets[i]? = some t) : 0 < t.stage.rank := by
  cases hn with
  | instant h => cases hs : t.stage <;> simp_all [Stage.isInstant, Stage.rank]
  | waiting hfree hfirst =>
    have hw := holds_of_findIdx? hfirst ht
    cases hs : t.stage <;> simp_all [Stage.isWaiting, Stage.rank]
  | pulling h => cases hs : t.stage <;> simp_all [Stage.isPulling, Stage.rank]

theorem exists_of_next (h : f.next = some i) : ∃ t, f.tickets[i]? = some t ∧ IsNext f i t := by
  have hearliest : earliest? f.tickets = some i → ∃ t, f.tickets[i]? = some t ∧ IsNext f i t := by
    intro he
    obtain ⟨t, ht, hp⟩ := exists_of_earliest? he
    exact ⟨t, ht, .pulling hp⟩
  unfold next at h
  split at h
  · cases h
  cases h1 : f.tickets.findIdx? fun t => t.stage.isInstant with
  | some j =>
    rw [h1] at h
    cases h
    obtain ⟨t, ht, hq⟩ := exists_of_findIdx? h1
    exact ⟨t, ht, .instant hq⟩
  | none =>
    rw [h1] at h
    by_cases hfree : f.hasFree = true
    · rw [if_pos hfree] at h
      cases h2 : f.tickets.findIdx? fun t => t.stage.isWaiting with
      | some j =>
        rw [h2] at h
        cases h
        obtain ⟨t, ht, -⟩ := exists_of_findIdx? h2
        exact ⟨t, ht, .waiting hfree h2⟩
      | none =>
        rw [h2] at h
        exact hearliest h
    · rw [if_neg hfree] at h
      exact hearliest h

/-! ## Where no move is next, none is left -/

theorem isPulling_of_earliest?_eq_none {ts : List Ticket} (h : earliest? ts = none) :
    ∀ t ∈ ts, t.stage.isPulling = false := by
  intro t ht
  cases hp : t.stage.isPulling with
  | false => rfl
  | true =>
    exfalso
    have hmem : t ∈ ts.filter fun t => t.stage.isPulling := List.mem_filter.mpr ⟨ht, hp⟩
    simp only [earliest?] at h
    split at h
    · next hmin =>
      rw [List.min?_eq_none_iff, List.map_eq_nil_iff] at hmin
      rw [hmin] at hmem
      cases hmem
    · next finish hmin =>
      obtain ⟨s, hs, hfin⟩ := List.mem_map.mp (List.min?_mem hmin)
      obtain ⟨hsm, hsp⟩ := List.mem_filter.mp hs
      have := List.findIdx?_eq_none_iff.mp h s hsm
      simp [hsp, hfin] at this

theorem not_move_of_next_eq_none (ho : f.order? = none) (h : f.next = none) :
    ¬ ∃ f', Move f f' := by
  unfold next at h
  rw [ho, Option.isSome_none, if_neg Bool.false_ne_true] at h
  cases h1 : f.tickets.findIdx? fun t => t.stage.isInstant with
  | some j => simp [h1] at h
  | none =>
    have hinst : ∀ t ∈ f.tickets, t.stage.isInstant = false := by
      simpa using List.findIdx?_eq_none_iff.mp h1
    have hwait : f.hasFree = true → f.tickets.findIdx? (fun t => t.stage.isWaiting) = none := by
      intro hfree
      cases h2 : f.tickets.findIdx? fun t => t.stage.isWaiting with
      | some j => simp [h1, h2, hfree] at h
      | none => rfl
    have hpull : ∀ t ∈ f.tickets, t.stage.isPulling = false := by
      refine isPulling_of_earliest?_eq_none ?_
      by_cases hfree : f.hasFree = true
      · simpa [h1, hwait hfree, hfree] using h
      · simpa [h1, hfree] using h
    have hstage : ∀ {i : Nat} {t : Ticket}, f.tickets[i]? = some t → t.stage.isInstant = false ∧
      t.stage.isPulling = false :=
      fun ht => ⟨hinst _ (List.mem_of_getElem? ht), hpull _ (List.mem_of_getElem? ht)⟩
    rintro ⟨f', hm⟩
    cases hm with
    | takePermit pull hfree hfirst => simp [hwait hfree] at hfirst
    | endPull ht hs => simpa [hs, Stage.isPulling] using (hstage ht).2
    | endArchiving answer ht hs => simpa [hs, Stage.isInstant] using (hstage ht).1
    | release ht hs => simpa [hs, Stage.isInstant] using (hstage ht).1
    | record ht hs => simpa [hs, Stage.isInstant] using (hstage ht).1

end Floor

namespace Pipeline

variable {σ : Type} (p : Pipeline σ) (services : Services σ)

open Floor

/-! ## A run is a sequence of moves -/

theorem move_next {f : Floor} {i : Nat} {t : Ticket} (hn : IsNext f i t)
    (ht : f.tickets[i]? = some t)
    (scene : Scene σ) : Move f ((p.move services f i t).run scene).1 := by
  cases hs : t.stage with
  | waiting =>
    obtain ⟨hfree, hfirst⟩ := hn.of_waiting hs
    simp only [move, hs]
    exact .takePermit _ hfree hfirst
  | pulling answer => simp only [move, hs]; exact .endPull ht hs
  | archiving data => simp only [move, hs]; exact .endArchiving _ ht hs
  | settled outcome => simp only [move, hs]; exact .release ht hs
  | released outcome => simp only [move, hs]; exact .record ht hs
  | done outcome => simpa [hs, Stage.rank] using hn.rank_pos ht
  | halted order => simpa [hs, Stage.rank] using hn.rank_pos ht

theorem next_of_bind {f : Floor} {i : Nat} {t : Ticket}
    (h : (f.next.bind fun i => f.tickets[i]?.map fun t => (i, t)) = some (i, t)) :
    f.next = some i ∧ f.tickets[i]? = some t := by
  obtain ⟨j, hj, hmap⟩ := Option.bind_eq_some_iff.mp h
  obtain ⟨t', ht', hp⟩ := Option.map_eq_some_iff.mp hmap
  cases hp
  exact ⟨hj, ht'⟩

theorem isNext_of_bind {f : Floor} {i : Nat} {t : Ticket}
    (h : (f.next.bind fun i => f.tickets[i]?.map fun t => (i, t)) = some (i, t)) :
    f.tickets[i]? = some t ∧ IsNext f i t := by
  obtain ⟨hi, ht⟩ := next_of_bind h
  obtain ⟨t', ht', hnext⟩ := exists_of_next hi
  cases ht.symm.trans ht'
  exact ⟨ht, hnext⟩

theorem next_eq_none_of_bind {f : Floor}
    (h : (f.next.bind fun i => f.tickets[i]?.map fun t => (i, t)) = none) : f.next = none := by
  cases hn : f.next with
  | none => rfl
  | some i =>
    obtain ⟨t, ht, -⟩ := exists_of_next hn
    simp [hn, ht] at h

/-- What every next move keeps is kept by a run. -/
theorem moves_keeps_of_next {P : Floor → Scene σ → Prop}
    (hmove : ∀ f i t s, f.next = some i → f.tickets[i]? = some t → P f s →
      P ((p.move services f i t).run s).1 ((p.move services f i t).run s).2)
    (n : Nat) {f : Floor} {s : Scene σ} (h : P f s) :
    P ((p.moves services n f).run s).1 ((p.moves services n f).run s).2 := by
  induction n generalizing f s with
  | zero => exact h
  | succ n ih =>
    cases hnext : f.next.bind fun i => f.tickets[i]?.map fun t => (i, t) with
    | none =>
      simp only [moves, hnext]
      exact h
    | some it =>
      obtain ⟨hi, ht⟩ := next_of_bind hnext
      simp only [moves, hnext, StateT.run_bind]
      exact ih (hmove f it.1 it.2 s hi ht h)

/-- What every move keeps is kept by a run. -/
theorem moves_keeps {P : Floor → Scene σ → Prop}
    (hmove : ∀ f i t s, f.tickets[i]? = some t → P f s →
      P ((p.move services f i t).run s).1 ((p.move services f i t).run s).2)
    (n : Nat) {f : Floor} {s : Scene σ} (h : P f s) :
    P ((p.moves services n f).run s).1 ((p.moves services n f).run s).2 :=
  p.moves_keeps_of_next services (fun f i t s _ ht => hmove f i t s ht) n h

/-- The step lemma for runs: what every move keeps, and what holds where none is left, holds of a
run that has enough moves. -/
theorem moves_spec (n : Nat) (f : Floor) (scene : Scene σ) :
    Relation.ReflTransGen Move f ((p.moves services n f).run scene).1 ∧
      (f.todo ≤ n → ((p.moves services n f).run scene).1.order? = none →
        ¬ ∃ f', Move ((p.moves services n f).run scene).1 f') := by
  induction n generalizing f scene with
  | zero =>
    -- with nothing left to do a further move would have less than nothing to do
    refine ⟨.refl, fun hn _ => ?_⟩
    rintro ⟨f', hm⟩
    exact absurd (Nat.lt_of_lt_of_le hm.todo_lt hn) (Nat.not_lt_zero _)
  | succ n ih =>
    cases hnext : f.next.bind fun i => f.tickets[i]?.map fun t => (i, t) with
    | none =>
      simp only [moves, hnext]
      exact ⟨.refl, fun _ ho => not_move_of_next_eq_none ho (next_eq_none_of_bind hnext)⟩
    | some it =>
      obtain ⟨i, t⟩ := it
      obtain ⟨ht, hisNext⟩ := isNext_of_bind hnext
      have hmove := p.move_next services hisNext ht scene
      simp only [moves, hnext, StateT.run_bind]
      obtain ⟨hr, hfinal⟩ := ih ((p.move services f i t).run scene).1
        ((p.move services f i t).run scene).2
      refine ⟨.head hmove hr, fun hn => hfinal ?_⟩
      have := hmove.todo_lt
      omega

/-- A run from the start ends with every request through, unless there are requests and no permit,
or an order to end the program has come. -/
theorem run_spec {tasks : List Task} {permits : Option Nat} (refused : Failures)
    (hpermits : permits = some 0 → tasks = []) (scene : Scene σ) {floor : Floor}
    (hfloor : ((p.run services (start tasks permits refused)).run scene).1 = floor) :
    Accounted tasks permits refused floor ∧
      (floor.order? = none → ∀ t ∈ floor.tickets, t.isThrough = true) := by
  obtain ⟨hr, hfinal⟩ := p.moves_spec services (start tasks permits refused).todo _ scene
  have hacc := (accounted_start tasks permits refused).moves hr
  rw [run] at hfloor
  rw [hfloor] at hfinal hacc
  refine ⟨hacc, fun ho => ?_⟩
  by_cases h0 : permits = some 0
  · have hnil : floor.tickets = [] := by simpa [hpermits h0] using hacc.tasks_eq
    simp [hnil]
  · exact isThrough_of_no_move hacc ho h0 (hfinal (Nat.le_refl _) ho)

end Pipeline

/-! ## Verdicts -/

namespace Scene

variable {σ : Type}

@[simp] theorem write_nil (scene : Scene σ) : scene.write [] = scene := by simp [write]

@[simp] theorem write_write (scene : Scene σ) (first second : List Line) :
    (scene.write first).write second = scene.write (first ++ second) := by
  simp [write, ← Array.toList_inj]

end Scene

namespace Verdict

variable {σ : Type} {routing : Routing}

@[simp] theorem task?_dropped (body : Json) : (dropped body).task? = none := rfl

@[simp] theorem task?_refused (failure : Failure) : (refused failure).task? = none := rfl

@[simp] theorem task?_ready (task : Task) : (ready task).task? = some task := rfl

@[simp] theorem failure?_dropped (body : Json) : (dropped body).failure? = none := rfl

@[simp] theorem failure?_refused (failure : Failure) :
    (refused failure).failure? = some failure := rfl

@[simp] theorem failure?_ready (task : Task) : (ready task).failure? = none := rfl

variable [Json.Limits]

/-- Why a message is given a verdict. -/
inductive Given (routing : Routing) (m : Message) : Verdict → Prop
  | dropped (hid : m.id.isNull = true) : Given routing m (.dropped m.body)
  | malformed {reason : RequestFault} (hid : m.id.isNull = false)
      (hbody : PullRequest.ofBody m.body = .error (.malformedRequest reason)) :
      Given routing m (.refused ⟨m.id, none, .malformedRequest reason⟩)
  | unknown {request : PullRequest} (hid : m.id.isNull = false)
      (hbody : PullRequest.ofBody m.body = .ok request)
      (hroute : routing.find? request.source = none) :
      Given routing m (.refused ⟨m.id, some request.source, .unknownSource request.source⟩)
  | ready {request : PullRequest} {route : Route} (hid : m.id.isNull = false)
      (hbody : PullRequest.ofBody m.body = .ok request)
      (hroute : routing.find? request.source = some route) :
      Given routing m (.ready ⟨m.id, request, route⟩)

theorem given_of_eq_ok {m : Message} {verdict : Verdict} (h : ofMessage routing m = .ok verdict) :
    Given routing m verdict := by
  unfold ofMessage at h
  split at h
  · next hid =>
    cases h
    exact .dropped hid
  · next hid =>
    have hid : m.id.isNull = false := by simpa using hid
    split at h
    · next request hbody =>
      cases h
      unfold ofRequest
      split
      · next route hroute => exact .ready hid hbody hroute
      · next hroute => exact .unknown hid hbody hroute
    · next reason hbody =>
      cases h
      exact .malformed hid hbody
    · cases h

/-- The verdicts on messages, one each. -/
abbrev Judged (routing : Routing) : List Message → List Verdict → Prop :=
  List.Forall₂ fun m verdict => ofMessage routing m = .ok verdict

theorem exists_verdict_of_mem {messages : List Message} {verdicts : List Verdict} {m : Message}
    (h : Judged routing messages verdicts) (hm : m ∈ messages) :
    ∃ verdict, ofMessage routing m = .ok verdict := by
  obtain ⟨i, hi, rfl⟩ := List.mem_iff_getElem.mp hm
  exact ⟨_, h.get hi (h.length_eq ▸ hi)⟩

theorem exists_message_of_mem {messages : List Message} {verdicts : List Verdict}
    {verdict : Verdict} (h : Judged routing messages verdicts) (hverdict : verdict ∈ verdicts) :
    ∃ m ∈ messages, ofMessage routing m = .ok verdict := by
  obtain ⟨i, hi, rfl⟩ := List.mem_iff_getElem.mp hverdict
  have hi' : i < messages.length := h.length_eq ▸ hi
  exact ⟨messages[i], List.getElem_mem hi', h.get hi' hi⟩

theorem judged_append {before after : List Message} {verdicts : List Verdict}
    (h : Judged routing (before ++ after) verdicts) :
    ∃ first second, verdicts = first ++ second ∧ Judged routing before first ∧
      Judged routing after second := by
  induction before generalizing verdicts with
  | nil => exact ⟨[], verdicts, rfl, .nil, h⟩
  | cons m before ih =>
    obtain ⟨verdict, verdicts, hm, hrest, rfl⟩ := List.forall₂_cons_left_iff.mp h
    obtain ⟨first, second, rfl, hfirst, hsecond⟩ := ih hrest
    exact ⟨verdict :: first, second, rfl, .cons hm hfirst, hsecond⟩

theorem ofMessages_of_judged {messages : List Message} {verdicts : List Verdict}
    (h : Judged routing messages verdicts) (scene : Scene σ) :
    (ofMessages routing messages).runOn scene =
      (.ok verdicts, scene.write (verdicts.flatMap lines)) := by
  induction h generalizing scene with
  | nil => simp [ofMessages]
  | @cons m verdict messages verdicts hm _ ih =>
    simp [ofMessages, hm, Act.runOn_bind, ih, Except.map]

/-- The first message that brings down the batch ends the reading; the lines on those before it
stay. -/
theorem ofMessages_of_error {before after : List Message} {verdicts : List Verdict} {m : Message}
    {fault : Fault} (h : Judged routing before verdicts) (hm : ofMessage routing m = .error fault)
    (scene : Scene σ) :
    (ofMessages routing (before ++ m :: after)).runOn scene =
      (.error fault, scene.write (verdicts.flatMap lines)) := by
  induction h generalizing scene with
  | nil => simp [ofMessages, hm, Act.runOn_bind]
  | @cons m' verdict before verdicts hm' _ ih =>
    simp [ofMessages, hm', Act.runOn_bind, ih, Except.map]

/-- All messages are judged, or a first one brings down the batch. -/
theorem judged_or_error (routing : Routing) (messages : List Message) :
    (∃ verdicts, Judged routing messages verdicts) ∨
      ∃ before verdicts m after fault, messages = before ++ m :: after ∧
        Judged routing before verdicts ∧
        ofMessage routing m = .error fault := by
  induction messages with
  | nil => exact Or.inl ⟨[], .nil⟩
  | cons m messages ih =>
    cases hm : ofMessage routing m with
    | error fault => exact Or.inr ⟨[], [], m, messages, fault, rfl, .nil, hm⟩
    | ok verdict =>
      rcases ih with ⟨verdicts, h⟩ | ⟨before, verdicts, m', after, fault, rfl, h, hm'⟩
      · exact Or.inl ⟨verdict :: verdicts, .cons hm h⟩
      · exact Or.inr ⟨m :: before, verdict :: verdicts, m', after, fault, rfl, .cons hm h, hm'⟩

end Verdict

/-! ## The whole batch -/

namespace Pipeline

variable {σ : Type} (p : Pipeline σ) (services : Services σ)

open Floor

/-- What the journal says before the first pull. -/
def opening (verdicts : List Verdict) : List Line :=
  verdicts.flatMap Verdict.lines ++ [⟨.info, .batch, Text.ofString "Processing " ++
    Text.ofNat (verdicts.filterMap Verdict.task?).length ++ Text.ofString " messages."⟩]

/-- What the journal says after the last request is through. -/
def closing (floor : Floor) : List Line :=
  ⟨.info, .batch,
    Text.ofString "Finished batch: " ++ Text.ofNat floor.succeeded ++
      Text.ofString " succeeded, " ++ Text.ofNat floor.failures.length ++
      Text.ofString " failed."⟩ :: floor.failures.reportLines

/-- The floor on which a batch with these verdicts is dispatched. -/
def dispatch (verdicts : List Verdict) (free : Option Nat) : Floor :=
  start (verdicts.filterMap Verdict.task?) free (verdicts.filterMap Verdict.failure?)

/-- Without a permit there is nothing to pull. -/
theorem tasks_eq_nil_of_permits {tasks : List Task} {cap : Option Int}
    (h : permits tasks cap = .ok (some 0)) :
    tasks = [] := by
  unfold permits at h
  split at h
  · cases h
  · next n =>
    split at h
    · cases h
    · split at h
      · cases h
      · next hpos hzero =>
        have hn : n.toNat = 0 := by simpa using h
        by_contra hne
        exact hzero ⟨by omega, hne⟩

/-- A batch that was dispatched accounts for every request, and each of them is through unless an
order to end the program has come. -/
theorem run_dispatch_spec {verdicts : List Verdict} {free : Option Nat}
    (hfree : permits (verdicts.filterMap Verdict.task?) p.cap = .ok free) {scene after : Scene σ}
    {floor : Floor} (hrun : (p.run services (dispatch verdicts free)).run scene = (floor, after)) :
    Accounted (verdicts.filterMap Verdict.task?) free (verdicts.filterMap Verdict.failure?) floor ∧
      (floor.order? = none → ∀ t ∈ floor.tickets, t.isThrough = true) :=
  p.run_spec services _ (fun h0 => tasks_eq_nil_of_permits (h0 ▸ hfree)) scene
    (congrArg Prod.fst hrun)

variable [Json.Limits]

section

variable {messages : List Message} {verdicts : List Verdict} {free : Option Nat} {floor : Floor}
  {scene after : Scene σ}

/-- A batch whose messages are all judged is dispatched, and what comes of it is read off the
floor. -/
theorem process_of_judged (h : Verdict.Judged p.routing messages verdicts)
    (hfree : permits (verdicts.filterMap Verdict.task?) p.cap = .ok free)
    (hrun : (p.run services (dispatch verdicts free)).run (scene.write (opening verdicts)) =
      (floor, after)) (ho : floor.order? = none) :
    (p.process services messages).runOn scene =
      (.ok ⟨floor.failures.report, verdicts.filterMap Verdict.failure?, floor⟩,
        after.write (closing floor)) := by
  simp only [opening, dispatch] at hrun
  simp only [process, Act.runOn_bind, Verdict.ofMessages_of_judged h, hfree, hrun, Act.runOn_note,
    Act.runOn_liftM_ok, Act.runOn_liftM_state, Act.runOn_write, Act.runOn_pure, Scene.write_write,
    checkOrder, ho]
  rfl

/-- An order to end the program ends the batch where it is. -/
theorem process_of_order (h : Verdict.Judged p.routing messages verdicts)
    (hfree : permits (verdicts.filterMap Verdict.task?) p.cap = .ok free)
    (hrun : (p.run services (dispatch verdicts free)).run (scene.write (opening verdicts)) =
      (floor, after)) {order : Fault} (ho : floor.order? = some order) :
    (p.process services messages).runOn scene = (.error order, after) := by
  simp only [opening, dispatch] at hrun
  simp only [process, Act.runOn_bind, Verdict.ofMessages_of_judged h, hfree, hrun, Act.runOn_note,
    Act.runOn_liftM_ok, Act.runOn_liftM_state, Scene.write_write, checkOrder, ho,
    Act.runOn_liftM_error]

end

/-- What the pipeline gives up on before anything is pulled, with the lines that it writes: a
message that is not judged, or requests for which there are no permits. -/
inductive GivesUp : List Message → Fault → List Line → Prop
  | unjudged {before after : List Message} {verdicts : List Verdict} {m : Message} {fault : Fault}
      (h : Verdict.Judged p.routing before verdicts)
      (hm : Verdict.ofMessage p.routing m = .error fault) :
      GivesUp (before ++ m :: after) fault (verdicts.flatMap Verdict.lines)
  | unpermitted {messages : List Message} {verdicts : List Verdict} {fault : Fault}
      (h : Verdict.Judged p.routing messages verdicts)
      (hfree : permits (verdicts.filterMap Verdict.task?) p.cap = .error fault) :
      GivesUp messages fault (opening verdicts)

/-- Every batch is given up, or dispatched. -/
theorem givesUp_or_dispatched (messages : List Message) :
    (∃ fault lines, p.GivesUp messages fault lines) ∨
      ∃ verdicts free, Verdict.Judged p.routing messages verdicts ∧
        permits (verdicts.filterMap Verdict.task?) p.cap = .ok free := by
  rcases Verdict.judged_or_error p.routing messages with
    ⟨verdicts, hjudged⟩ | ⟨before, verdicts, m, after, fault, rfl, hb, hm⟩
  · cases hfree : permits (verdicts.filterMap Verdict.task?) p.cap with
    | error fault => exact .inl ⟨_, _, .unpermitted hjudged hfree⟩
    | ok free => exact .inr ⟨verdicts, free, hjudged, hfree⟩
  · exact .inl ⟨_, _, .unjudged hb hm⟩

theorem process_of_givesUp {messages : List Message} {fault : Fault} {lines : List Line}
    (h : p.GivesUp messages fault lines) (scene : Scene σ) :
    (p.process services messages).runOn scene = (.error fault, scene.write lines) := by
  cases h with
  | unjudged h hm => exact Act.runOn_bind_of_error (Verdict.ofMessages_of_error h hm scene) _
  | unpermitted h hfree =>
    rw [process, Act.runOn_bind_of_ok (Verdict.ofMessages_of_judged h scene),
      Act.runOn_bind_of_ok (Act.runOn_note ..), hfree,
        Act.runOn_bind_of_error (Act.runOn_liftM_error ..),
      Scene.write_write]
    rfl

/-- A batch that comes to no result is given up, or an order to end the program has halted it. -/
theorem process_eq_error {messages : List Message} {scene scene' : Scene σ} {fault : Fault}
    (h : (p.process services messages).runOn scene = (.error fault, scene')) :
    (∃ lines, p.GivesUp messages fault lines ∧ scene' = scene.write lines) ∨
      ∃ verdicts free floor, Verdict.Judged p.routing messages verdicts ∧
        permits (verdicts.filterMap Verdict.task?) p.cap = .ok free ∧
        (p.run services (dispatch verdicts free)).run (scene.write (opening verdicts)) =
          (floor, scene') ∧
        floor.order? = some fault ∧ fault.isInterrupt = true := by
  rcases p.givesUp_or_dispatched messages with
    ⟨fault', lines, hgives⟩ | ⟨verdicts, free, hjudged, hfree⟩
  · cases h.symm.trans (p.process_of_givesUp services hgives scene)
    exact .inl ⟨lines, hgives, rfl⟩
  · rcases hrun : (p.run services (dispatch verdicts free)).run
      (scene.write (opening verdicts)) with ⟨floor, after⟩
    cases ho : floor.order? with
    | none => cases h.symm.trans (p.process_of_judged services hjudged hfree hrun ho)
    | some order =>
      cases h.symm.trans (p.process_of_order services hjudged hfree hrun ho)
      exact .inr ⟨verdicts, free, floor, hjudged, hfree, hrun, ho,
        (p.run_dispatch_spec services hfree hrun).1.isInterrupt ho⟩

/-- A batch that comes to a result has been judged, dispatched and run to its end. -/
theorem process_eq_ok {messages : List Message} {scene scene' : Scene σ} {result : BatchResult}
    (h : (p.process services messages).runOn scene = (.ok result, scene')) :
    ∃ verdicts free floor after, Verdict.Judged p.routing messages verdicts ∧
      permits (verdicts.filterMap Verdict.task?) p.cap = .ok free ∧
      (p.run services (dispatch verdicts free)).run (scene.write (opening verdicts)) =
        (floor, after) ∧ floor.order? = none ∧
      result = ⟨floor.failures.report, verdicts.filterMap Verdict.failure?, floor⟩ ∧
      scene' = after.write (closing floor) := by
  rcases p.givesUp_or_dispatched messages with
    ⟨fault, lines, hgives⟩ | ⟨verdicts, free, hjudged, hfree⟩
  · cases h.symm.trans (p.process_of_givesUp services hgives scene)
  · rcases hrun : (p.run services (dispatch verdicts free)).run
      (scene.write (opening verdicts)) with ⟨floor, after⟩
    cases ho : floor.order? with
    | none =>
      obtain ⟨hresult, hscene⟩ :=
        Prod.mk.inj (h.symm.trans (p.process_of_judged services hjudged hfree hrun ho))
      exact ⟨verdicts, free, floor, after, hjudged, hfree, hrun, ho, Except.ok.inj hresult, hscene⟩
    | some order => cases h.symm.trans (p.process_of_order services hjudged hfree hrun ho)

end Pipeline

end LogHarvest
