import LogHarvest.Proofs.Connector.Pulls
import LogHarvest.Proofs.Batch.Orders
import LogHarvest.Proofs.Json.Limits
import LogHarvest.Proofs.Shelf
import Mathlib

/-!
# One bad message

A message that is no request is reported, and the rest of its batch goes on as if it were not there.
Only a body that the JSON reader gives up on is another matter: an integer with too many digits, or
nesting that is too deep, brings down the whole batch before anything is pulled.

The rest of a batch can be compared with a batch without the bad message only if connectors do not
look at what has been written to the journal, for that is where the two differ.
-/

namespace LogHarvest

variable {σ : Type}

/-! ## Bodies -/

/-- The JSON reader gives up on the body: an integer in it has too many digits, or it is nested too
deep. -/
def Message.ExceedsReader [Json.Limits] (m : Message) : Prop :=
  m.id.isNull = false ∧ ∃ text, m.body = .string text ∧
    ((∃ digits, Json.read text = .error (.tooLong digits)) ∨
      ∃ container, Json.read text = .error (.tooDeep container))

/-- The message can be reported, and its body is no request for the given reason. -/
def Message.IsMalformed [Json.Limits] (m : Message) (reason : RequestFault) : Prop :=
  m.id.isNull = false ∧ PullRequest.ofBody m.body = .error (.malformedRequest reason)

namespace PullRequest

variable [Json.Limits]

/-- What can come of a text: a request, a reason why it is none, or a limit of the reader. -/
theorem ofText_eq_error {text : Text} {fault : Fault} (h : ofText text = .error fault) :
    (∃ reason, fault = .malformedRequest reason) ∨
      ∃ limit, fault = .json limit ∧ Json.read text = .error limit ∧
        ((∃ digits, limit = .tooLong digits) ∨ ∃ container, limit = .tooDeep container) := by
  unfold ofText at h
  split at h
  · exact Or.inl (ofJson_eq_error h)
  · cases h
    exact Or.inl ⟨_, rfl⟩
  · next limit hnot hread =>
    cases h
    refine Or.inr ⟨limit, rfl, hread, ?_⟩
    cases limit with
    | malformed problem place => exact (hnot problem place rfl).elim
    | tooLong digits => exact Or.inl ⟨digits, rfl⟩
    | tooDeep container => exact Or.inr ⟨container, rfl⟩

theorem ofBody_eq_error {body : Json} {fault : Fault} (h : ofBody body = .error fault) :
    (∃ reason, fault = .malformedRequest reason) ∨
      ∃ text limit, body = .string text ∧ fault = .json limit ∧ Json.read text = .error limit ∧
        ((∃ digits, limit = .tooLong digits) ∨ ∃ container, limit = .tooDeep container) := by
  unfold ofBody at h
  split at h
  · cases h
    exact Or.inl ⟨_, rfl⟩
  · next text => exact (ofText_eq_error h).imp_right fun ⟨limit, hlimit⟩ =>
      ⟨text, limit, rfl, hlimit⟩
  · cases h
    exact Or.inl ⟨_, rfl⟩

end PullRequest

namespace Verdict

variable [Json.Limits] {routing : Routing} {m : Message}

theorem ofMessage_of_malformed {reason : RequestFault} (h : m.IsMalformed reason) :
    ofMessage routing m = .ok (.refused ⟨m.id, none, .malformedRequest reason⟩) := by
  simp [ofMessage, h.1, h.2]

theorem exists_error_of_exceeds (h : m.ExceedsReader) :
    ∃ fault, ofMessage routing m = .error fault := by
  obtain ⟨hid, text, hbody, ⟨digits, hread⟩ | ⟨container, hread⟩⟩ := h
  · exact ⟨.json (.tooLong digits), by
      simp [ofMessage, hid, hbody, PullRequest.ofBody, PullRequest.ofText, hread]⟩
  · exact ⟨.json (.tooDeep container), by
      simp [ofMessage, hid, hbody, PullRequest.ofBody, PullRequest.ofText, hread]⟩

/-- Nothing but a limit of the reader keeps a message from being judged. -/
theorem exceeds_of_error {fault : Fault} (h : ofMessage routing m = .error fault) :
    m.ExceedsReader ∧ ∃ limit, fault = .json limit := by
  unfold ofMessage at h
  split at h
  · cases h
  · next hid =>
    split at h
    · cases h
    · cases h
    · next f hnot hf =>
      cases h
      rcases PullRequest.ofBody_eq_error hf with ⟨reason, rfl⟩
        | ⟨text, limit, hb, rfl, hread, hlimit⟩
      · exact absurd rfl (hnot reason)
      · refine ⟨⟨by simpa using hid, text, hb, ?_⟩, limit, rfl⟩
        rcases hlimit with ⟨digits, rfl⟩ | ⟨container, rfl⟩
        · exact Or.inl ⟨digits, hread⟩
        · exact Or.inr ⟨container, hread⟩

theorem exists_judged_iff {messages : List Message} :
    (∃ verdicts, Judged routing messages verdicts) ↔ ∀ m ∈ messages, ¬ m.ExceedsReader := by
  constructor
  · rintro ⟨verdicts, h⟩ m hm hexceeds
    obtain ⟨verdict, hverdict⟩ := exists_verdict_of_mem h hm
    obtain ⟨fault, hfault⟩ := exists_error_of_exceeds hexceeds
    cases hverdict.symm.trans hfault
  · intro h
    refine (judged_or_error routing messages).resolve_right ?_
    rintro ⟨before, verdicts, m, after, fault, rfl, -, hm⟩
    exact h m (by simp) (exceeds_of_error hm).1

end Verdict

/-! ## Scenes that differ in their lines only -/

/-- The scenes differ in the lines written so far, if at all. -/
def Scene.SameButLines (s s' : Scene σ) : Prop := { s with lines := #[] } = { s' with lines := #[] }

namespace Scene.SameButLines

variable {s s' s'' : Scene σ}

theorem write (s : Scene σ) (lines : List Line) : (s.write lines).SameButLines s := rfl

/-- The lines of two such scenes are the only thing to tell apart. -/
theorem exists_lines (h : s.SameButLines s') : ∃ lines, s' = { s with lines := lines } := by
  refine ⟨s'.lines, ?_⟩
  cases s
  cases s'
  simpa [SameButLines, eq_comm] using h

end Scene.SameButLines

/-- What the connector does, lines apart, does not depend on the lines written so far. -/
def Connector.IgnoresJournal (c : Connector σ) : Prop :=
  ∀ route, Agree Scene.SameButLines (c.pull route) (c.pull route)

/-- None of the connectors looks at the journal. -/
def Pipeline.IgnoresJournal (p : Pipeline σ) : Prop :=
  ∀ type connector, p.connectors.find type = .ok connector → connector.IgnoresJournal

theorem Scene.agrees_ask {α : Type} (question : StateM σ α) :
    Act.Agrees Scene.SameButLines (Act.ask question) (Act.ask question) := by
  refine .of_runOn fun s s' h => ?_
  obtain ⟨lines, rfl⟩ := h.exists_lines
  exact ⟨rfl, rfl⟩

theorem Scene.linked_sameButLines (services : Services σ) :
    Linked Scene.SameButLines services services where
  write _ _ _ h := h
  pass seconds s s' h := by
    obtain ⟨lines, rfl⟩ := h.exists_lines
    rfl
  freshId := agrees_ask _
  store _ := agrees_ask _

theorem Pipeline.linked_sameButLines (p : Pipeline σ) (services : Services σ)
    (h : p.IgnoresJournal) :
    p.Linked Scene.SameButLines p services services where
  toLinked := Scene.linked_sameButLines services
  routing := rfl
  writer := rfl
  cap := rfl
  begin task := by
    unfold Pipeline.begin
    cases hc : p.connectors.find task.route.type with
    | ok connector => exact h _ connector hc task.route
    | error fault => exact Agree.pure _

/-! ## The connector for pages does not look at the journal -/

namespace PageConnector

open Act

variable [Json.Limits]

/-- Scenes that differ in their lines only keep the same secrets, and services look at no lines. -/
theorem linked_sameButLines (services : Services σ) :
    Linked Scene.SameButLines Eq services services where
  toLinked := Scene.linked_sameButLines services
  kept := by
    intro s s' h arn
    obtain ⟨lines, rfl⟩ := h.exists_lines
    exact rel_self (fun _ => rfl) (s.kept.lookup arn)
  secret arn := Act.Matches.eq_iff.mpr
    ((Agrees.demand (Scene.agrees_ask _)).bind fun answer => .liftExcept _)
  keep := by
    rintro arn secret _ rfl s s' h
    obtain ⟨lines, rfl⟩ := h.exists_lines
    rfl
  now := Scene.agrees_ask _
  page := by
    rintro url route params secret _ rfl
    exact Scene.agrees_ask _

theorem ignoresJournal (services : Services σ) : (connector services).IgnoresJournal := fun route =>
  Agree.bind ((linked_sameButLines services).pull route) fun _ => Agree.pure _

end PageConnector

theorem Shelf.isUninterrupted (cap : Option Int) :
    (Shelf.pipeline cap).IsUninterrupted Shelf.services where
  pull type connector route s h := by
    rw [Shelf.eq_connector h]
    exact noOrder_ok _
  compress _ := noOrder_ok _
  store _ _ := noOrder_ok _

theorem Shelf.ignoresJournal (cap : Option Int) : (Shelf.pipeline cap).IgnoresJournal := by
  intro type connector h
  rw [Shelf.eq_connector h]
  exact fun _ => Agree.pure _

/-! ## Batches -/

namespace Pipeline

variable (p : Pipeline σ) (services : Services σ)

theorem permits_of_cap {cap : Option Int} (hcap : ∀ n, cap = some n → 1 ≤ n) (tasks : List Task) :
    permits tasks cap = .ok (cap.map Int.toNat) := by
  cases cap with
  | none => rfl
  | some n =>
    have hn := hcap n rfl
    rw [permits, if_neg (by omega), if_neg (by omega)]
    rfl

variable [Json.Limits]

/-- A batch is given up for a message that exceeds the reader, or for want of permits. -/
theorem GivesUp.reason {messages : List Message} {fault : Fault} {lines : List Line}
    (h : p.GivesUp messages fault lines) :
    (∃ m ∈ messages, m.ExceedsReader) ∨ ∃ n, p.cap = some n ∧ n < 1 := by
  cases h with
  | unjudged h hm => exact .inl ⟨_, by simp, (Verdict.exceeds_of_error hm).1⟩
  | @unpermitted _ verdicts _ h hfree =>
    refine .inr (by_contra fun hnot => ?_)
    have hcap : ∀ n, p.cap = some n → 1 ≤ n := fun n hn =>
      Int.not_lt.mp fun hless => hnot ⟨n, hn, hless⟩
    cases hfree.symm.trans (permits_of_cap hcap (verdicts.filterMap Verdict.task?))

/-- Unless the reader gives up on a body, a batch comes to a result, or to an order to end the
program. -/
theorem process_returns (hcap : ∀ n, p.cap = some n → 1 ≤ n) {messages : List Message}
    (h : ∀ m ∈ messages, ¬ m.ExceedsReader) (scene : Scene σ) :
    (∃ result, ((p.process services messages).runOn scene).1 = .ok result) ∨
      ∃ order, ((p.process services messages).runOn scene).1 = .error order ∧
        order.isInterrupt = true := by
  rcases hrun : (p.process services messages).runOn scene with ⟨fault | result, after⟩
  · rcases p.process_eq_error services hrun with
      ⟨lines, hgives, -⟩ | ⟨_, _, _, -, -, -, -, horder⟩
    · rcases hgives.reason with ⟨m, hm, hexceeds⟩ | ⟨n, hn, hless⟩
      · exact absurd hexceeds (h m hm)
      · exact absurd hless (Int.not_lt.mpr (hcap n hn))
    · exact .inr ⟨fault, rfl, horder⟩
  · exact .inl ⟨result, rfl⟩

/-- Without such an order it comes to a result. -/
theorem process_returns_uninterrupted (hp : p.IsUninterrupted services) {messages : List Message}
    (hcap : ∀ n, p.cap = some n → 1 ≤ n) (h : ∀ m ∈ messages, ¬ m.ExceedsReader) (scene : Scene σ) :
    ∃ result, ((p.process services messages).runOn scene).1 = .ok result := by
  obtain ⟨verdicts, hjudged⟩ := Verdict.exists_judged_iff.mpr h
  have hfree := permits_of_cap hcap (verdicts.filterMap Verdict.task?)
  exact ⟨_, congrArg Prod.fst (hp.process hjudged hfree rfl)⟩

theorem process_brought_down {messages : List Message} (h : ∃ m ∈ messages, m.ExceedsReader)
    (scene : Scene σ) :
    (∃ limit, ((p.process services messages).runOn scene).1 = .error (.json limit)) ∧
      ((p.process services messages).runOn scene).2.SameButLines scene := by
  rcases Verdict.judged_or_error p.routing messages with hjudged
    | ⟨before, verdicts, m, after, fault, rfl, hb, hm⟩
  · obtain ⟨m, hm, hexceeds⟩ := h
    exact absurd hexceeds (Verdict.exists_judged_iff.mp hjudged m hm)
  · obtain ⟨-, limit, rfl⟩ := Verdict.exceeds_of_error hm
    rw [p.process_of_givesUp services (.unjudged hb hm)]
    exact ⟨⟨limit, rfl⟩, Scene.SameButLines.write _ _⟩

/-- What comes of a batch with these verdicts, if on its own floor no failure is recorded but those
of pulls. -/
def resultOf (verdicts : List Verdict) (late : Floor) : BatchResult :=
  let floor := late.withEarlier (verdicts.filterMap Verdict.failure?)
  ⟨floor.failures.report, verdicts.filterMap Verdict.failure?, floor⟩

/-- Batches with the same requests in them come to the same, apart from what was refused. -/
theorem process_of_same_tasks {messages messages' : List Message}
    {verdicts verdicts' : List Verdict}
    {free : Option Nat} (hp : p.IgnoresJournal) (h : Verdict.Judged p.routing messages verdicts)
    (h' : Verdict.Judged p.routing messages' verdicts')
    (htasks : verdicts.filterMap Verdict.task? = verdicts'.filterMap Verdict.task?)
    (hfree : permits (verdicts.filterMap Verdict.task?) p.cap = .ok free) (scene : Scene σ)
    (ho : ((p.run services (dispatch verdicts free)).run
      (scene.write (opening verdicts))).1.order? = none) :
    ∃ late s s', (p.process services messages).runOn scene = (.ok (resultOf verdicts late), s) ∧
      (p.process services messages').runOn scene = (.ok (resultOf verdicts' late), s') ∧
        s.SameButLines s' := by
  rcases hrun : (p.run services (dispatch verdicts free)).run
    (scene.write (opening verdicts)) with ⟨floor, s⟩
  rcases hrun' : (p.run services (dispatch verdicts' free)).run
    (scene.write (opening verdicts')) with ⟨floor', s'⟩
  -- the runs begin on scenes that differ in what the journal says of the verdicts
  have hopening : (scene.write (opening verdicts)).SameButLines (scene.write (opening verdicts')) :=
    rfl
  obtain ⟨late, hfloor, hfloor', hscene⟩ := (p.linked_sameButLines services hp).run
    (verdicts.filterMap Verdict.task?) free (verdicts.filterMap Verdict.failure?)
    (verdicts'.filterMap Verdict.failure?) hopening
  rw [← dispatch, hrun] at hfloor hscene
  rw [htasks, ← dispatch, hrun'] at hfloor' hscene
  obtain rfl : floor = late.withEarlier (verdicts.filterMap Verdict.failure?) := hfloor
  obtain rfl : floor' = late.withEarlier (verdicts'.filterMap Verdict.failure?) := hfloor'
  -- an order would stand on the tickets, and these are the same
  rw [hrun] at ho
  exact ⟨late, _, _, p.process_of_judged services h hfree hrun ho,
    p.process_of_judged services h' (htasks ▸ hfree) hrun' ho, hscene⟩

/-- A malformed message between others: with it and without it the same is pulled and archived, and
the failures differ in its own. -/
theorem process_without {before after : List Message} {bad : Message} {reason : RequestFault}
    {result : BatchResult}
    {scene scene' : Scene σ} (hp : p.IgnoresJournal) (hbad : bad.IsMalformed reason)
    (h : (p.process services (before ++ bad :: after)).runOn scene = (.ok result, scene')) :
    ∃ result' scene'', (p.process services (before ++ after)).runOn scene = (.ok result', scene'') ∧
      scene'.SameButLines scene'' ∧ result'.floor.tickets = result.floor.tickets ∧
      ∃ early late, result.floor.failures =
        early ++ ⟨bad.id, none, .malformedRequest reason⟩ :: late ∧
        result'.floor.failures = early ++ late ∧
        result.report = result.floor.failures.report ∧
          result'.report = result'.floor.failures.report := by
  obtain ⟨verdicts, free, floor, after', hjudged, hfree, hrun, ho, -⟩ := p.process_eq_ok services h
  obtain ⟨first, rest, rfl, hbefore, hrest⟩ := Verdict.judged_append hjudged
  obtain ⟨verdict, second, hverdict, hafter, rfl⟩ := List.forall₂_cons_left_iff.mp hrest
  cases (Verdict.ofMessage_of_malformed hbad).symm.trans hverdict
  have hwithout : Verdict.Judged p.routing (before ++ after) (first ++ second) :=
    List.rel_append hbefore hafter
  obtain ⟨late, s, s', hwith, hother, hscene⟩ :=
    p.process_of_same_tasks services hp hjudged hwithout
    (by simp [List.filterMap_cons]) hfree scene (by rw [hrun]; exact ho)
  cases h.symm.trans hwith
  refine ⟨_, _, hother, hscene, rfl, first.filterMap Verdict.failure?,
    second.filterMap Verdict.failure? ++ late.failures, ?_, ?_, rfl, rfl⟩
  · simp [resultOf, Floor.withEarlier]
  · simp [resultOf, Floor.withEarlier]

/--
**A bad message never concerns another, but for the limits of the reader.**

Whatever the connectors, the compression and the object store do, a batch comes to a result, or to
an order to end the program that one of them gave, exactly if the reader gives up on none of its
bodies; and where none of them gives such an order, to a result. A body that the reader gives up on
brings down the batch before anything is pulled. Any other body that is no request adds one failure,
its own, and the rest of the batch is as without it.
-/
theorem bad_message_stays_alone {p : Pipeline σ} (services : Services σ)
    (hcap : ∀ n, p.cap = some n → 1 ≤ n) (messages : List Message) (scene : Scene σ) :
    ((∃ result, ((p.process services messages).runOn scene).1 = .ok result) ∨
        (∃ order, ((p.process services messages).runOn scene).1 = .error order ∧
          order.isInterrupt = true) ↔ ∀ m ∈ messages, ¬ m.ExceedsReader) ∧
      (p.IsUninterrupted services →
        ((∃ result, ((p.process services messages).runOn scene).1 = .ok result) ↔
          ∀ m ∈ messages, ¬ m.ExceedsReader)) ∧
      ((∃ m ∈ messages, m.ExceedsReader) →
        (∃ limit, ((p.process services messages).runOn scene).1 = .error (.json limit)) ∧
          ((p.process services messages).runOn scene).2.SameButLines scene) ∧
      ∀ before bad after reason result scene', messages = before ++ bad :: after →
        p.IgnoresJournal →
        bad.IsMalformed reason → (p.process services messages).runOn scene = (.ok result, scene') →
        ∃ result' scene'', (p.process services (before ++ after)).runOn scene =
          (.ok result', scene'') ∧
          scene'.SameButLines scene'' ∧ result'.floor.tickets = result.floor.tickets ∧
          ∃ early late, result.floor.failures =
            early ++ ⟨bad.id, none, .malformedRequest reason⟩ :: late ∧
            result'.floor.failures = early ++ late ∧
            result.report = result.floor.failures.report ∧
              result'.report = result'.floor.failures.report := by
  have hends : ∀ outcome, ((p.process services messages).runOn scene).1 = outcome →
      (∀ limit, outcome ≠ .error (.json limit)) → ∀ m ∈ messages, ¬ m.ExceedsReader := by
    intro outcome houtcome hother m hm hexceeds
    obtain ⟨⟨limit, hlimit⟩, -⟩ := p.process_brought_down services ⟨m, hm, hexceeds⟩ scene
    exact hother limit (houtcome.symm.trans hlimit)
  refine ⟨⟨?_, fun h => p.process_returns services hcap h scene⟩,
    fun hp => ⟨?_, fun h => p.process_returns_uninterrupted services hp hcap h scene⟩,
    fun h => p.process_brought_down services h scene, ?_⟩
  · rintro (⟨result, hresult⟩ | ⟨order, hresult, horder⟩)
    · exact hends _ hresult fun _ => nofun
    · refine hends _ hresult fun limit hlimit => ?_
      cases hlimit
      cases horder
  · rintro ⟨result, hresult⟩
    exact hends _ hresult fun _ => nofun
  · rintro before bad after reason result scene' rfl hp hbad h
    exact p.process_without services hp hbad h

end Pipeline

namespace Pipeline

attribute [local instance] Platform.builtIn

/-- A message that breaks off beside a request: the request is archived as it is without that
message. -/
theorem broken_message_beside_request :
    let messages := [Shelf.message "m1" "\x7b", Shelf.request "m2" "ok"]
    let both := Shelf.run (some 1) messages
    let alone := Shelf.run (some 1) [Shelf.request "m2" "ok"]
    (Shelf.pipeline (some 1)).IsUninterrupted Shelf.services ∧
      (∀ m ∈ messages, ¬ m.ExceedsReader) ∧ both.1.isOk = true ∧ alone.1.isOk = true ∧
      both.2.SameButLines alone.2 ∧ both.2.outside.objects.length = 1 := by
  have hok : (Shelf.run (some 1) [Shelf.message "m1" "\x7b",
      Shelf.request "m2" "ok"]).1.isOk = true := by cbv
  have hstored : (Shelf.run (some 1) [Shelf.message "m1" "\x7b",
      Shelf.request "m2" "ok"]).2.outside.objects.length = 1 := by cbv
  have hbad : (Shelf.message "m1" "\x7b").IsMalformed (.notJson (.malformed .name ⟨1, 2, 1⟩)) :=
    ⟨rfl, by cbv⟩
  intro messages both alone
  obtain ⟨result, hresult⟩ := exists_of_isOk hok
  obtain ⟨-, hreturns, -, hwithout⟩ :=
    bad_message_stays_alone (p := Shelf.pipeline (some 1)) Shelf.services
      (by rintro n ⟨⟩; decide) [Shelf.message "m1" "\x7b", Shelf.request "m2" "ok"]
      (.start (.empty []))
  obtain ⟨result', scene'', halone, hscene, -⟩ :=
    hwithout [] _ [Shelf.request "m2" "ok"] _ result both.2 rfl
    (Shelf.ignoresJournal _) hbad (Prod.ext hresult rfl)
  have halone : alone = (.ok result', scene'') := halone
  rw [halone]
  have hspared := Shelf.isUninterrupted (some 1)
  exact ⟨hspared, (hreturns hspared).mp ⟨result, hresult⟩, hok, rfl, hscene, hstored⟩

/-- An integer of more digits than the reader takes, beside a request: the request is not even
pulled, while alone it is archived. -/
theorem long_integer_brings_down_batch :
    let long := Shelf.message "m1" (List.replicate 4301 (.char '1'))
    let both := Shelf.run none [long, Shelf.request "m2" "ok"]
    let alone := Shelf.run none [Shelf.request "m2" "ok"]
    both.1 = .error (.json (.tooLong 4301)) ∧ both.2.outside.objects = [] ∧
      alone.2.outside.objects.length = 1 := by
  have hstored : (Shelf.run none [Shelf.request "m2" "ok"]).2.outside.objects.length = 1 := by cbv
  intro long both alone
  have hread : Json.read (List.replicate 4301 (.char '1')) = .error (.tooLong 4301) :=
    Json.read_ones (by decide)
  have hverdict : Verdict.ofMessage (Shelf.pipeline none).routing
      (Shelf.message "m1" (List.replicate 4301 (.char '1'))) = .error (.json (.tooLong 4301)) := by
    simp only [Verdict.ofMessage, Shelf.message, Json.isNull, PullRequest.ofBody,
      PullRequest.ofText, hread]
    rfl
  have hrun : both = (.error (.json (.tooLong 4301)), _) :=
    process_of_givesUp (Shelf.pipeline none) Shelf.services (.unjudged .nil hverdict)
      (.start (.empty []))
  rw [hrun]
  exact ⟨rfl, rfl, hstored⟩

end Pipeline

end LogHarvest
