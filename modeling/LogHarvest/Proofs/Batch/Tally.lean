import LogHarvest.Proofs.Batch.Isolation
import LogHarvest.Proofs.Batch.Records
import LogHarvest.Proofs.Batch.Reference
import LogHarvest.Proofs.Connector.Pulls
import LogHarvest.Proofs.Worker.Handling
import Mathlib.Data.List.Perm.Basic
import Mathlib.Data.List.Perm.Subperm

/-!
# The tally of a batch

The numbers in the journal come from three places: messages are dropped one by one, results are
counted when all requests are through, and failures are listed as they are recorded. Here it is said
that they fit together (`log_accounts_for_every_message`): every message is told of once, as
dropped, succeeded or failed, and the failures that are told are those in the report.
-/

namespace LogHarvest

variable {σ : Type}

/-! ## Kinds of records -/

/-- What a record of a batch tells. -/
inductive RecordKind
  | drop
  | processing
  | finished
  | failure
deriving DecidableEq

/-- What the line tells, if it is one of the records that are counted. -/
def Line.kind? (line : Line) : Option RecordKind :=
  match line.topic with
  | .batch =>
    if line.text.startsWith (Text.ofString "Dropping message") then some .drop
    else if line.text.startsWith (Text.ofString "Processing ") then some .processing
    else if line.text.startsWith (Text.ofString "Finished batch: ") then some .finished
    else none
  | .failures =>
    if line.level = .error ∧ line.text.startsWith (Text.ofString "Failed message_id: ") then
      some .failure
    else none
  | _ => none

/-- The records of a kind among the lines. -/
def RecordKind.among (kind : RecordKind) (lines : List Line) : List Line :=
  lines.filter fun line => line.kind? = some kind

namespace RecordKind

variable {kind : RecordKind}

theorem among_append (first second : List Line) :
    kind.among (first ++ second) = kind.among first ++ kind.among second := List.filter_append ..

theorem among_cons (line : Line) (rest : List Line) :
    kind.among (line :: rest) = kind.among [line] ++ kind.among rest :=
  among_append [line] rest

/-- A line counts for its own kind only. -/
theorem among_singleton {line : Line} {own : RecordKind} (h : line.kind? = some own) :
    kind.among [line] = if kind = own then [line] else [] := by
  by_cases hkind : kind = own <;> simp [among, h, hkind, eq_comm]

/-- Only records are of a kind. -/
theorem among_records (lines : List Line) :
    kind.among (lines.filter Line.isRecord) = kind.among lines := by
  have hrecord : ∀ line : Line, line.kind? = some kind → line.isRecord = true := by
    rintro ⟨level, topic, text⟩ h
    cases topic <;> first | rfl | cases h
  rw [among, among, List.filter_filter]
  congr 1
  funext line
  by_cases h : line.kind? = some kind <;> simp [h, hrecord line]

end RecordKind

/-! ## The kinds of what is written -/

theorem Failure.kind?_line (failure : Failure) : failure.line.kind? = some .failure := rfl

theorem Pipeline.kind?_processing (n : Nat) : (processing n).kind? = some .processing := rfl

theorem Pipeline.kind?_finished (succeeded failed : Nat) :
    (finished succeeded failed).kind? = some .finished := rfl

/-- The line about a report is of no kind. -/
theorem Failures.among_reportLines (failures : Failures) (kind : RecordKind) :
    kind.among failures.reportLines = [] := by
  unfold Failures.reportLines
  split
  · rfl
  · rfl

theorem Failures.among_lines (failures : Failures) (kind : RecordKind) :
    kind.among (failures.map Failure.line) =
      if kind = .failure then failures.map Failure.line else [] := by
  induction failures with
  | nil => exact (ite_self _).symm
  | cons failure rest ih =>
    rw [List.map_cons, RecordKind.among_cons, ih, RecordKind.among_singleton failure.kind?_line]
    by_cases hkind : kind = .failure <;> simp [hkind]

namespace Verdict

/-- Whether the message is dropped. -/
def isDropped : Verdict → Bool
  | dropped _ => true
  | _ => false

/-- How many records of a kind the verdicts leave behind, where failures are told by their lines. -/
theorem among_lines (verdicts : List Verdict) (kind : RecordKind) :
    kind.among (verdicts.flatMap lines) = match kind with
      | .drop => verdicts.flatMap fun v => if v.isDropped then v.lines else []
      | .failure => (verdicts.filterMap failure?).map Failure.line
      | .processing => []
      | .finished => [] := by
  induction verdicts with
  | nil => cases kind <;> rfl
  | cons verdict rest ih =>
    rw [List.flatMap_cons, RecordKind.among_append, ih]
    cases verdict <;> cases kind <;> rfl

theorem length_drops (verdicts : List Verdict) :
    (RecordKind.drop.among (verdicts.flatMap lines)).length = verdicts.countP isDropped := by
  induction verdicts with
  | nil => rfl
  | cons verdict rest ih =>
    rw [List.flatMap_cons, RecordKind.among_append, List.length_append, ih, List.countP_cons,
      Nat.add_comm]
    cases verdict <;> rfl

/-- Every message is dropped, refused or ready. -/
theorem length_verdicts (verdicts : List Verdict) :
    verdicts.length = verdicts.countP isDropped + (verdicts.filterMap failure?).length +
      (verdicts.filterMap task?).length := by
  induction verdicts with
  | nil => rfl
  | cons verdict rest ih =>
    rw [List.length_cons, ih, List.countP_cons]
    cases verdict <;> simp [List.filterMap_cons, isDropped] <;> omega

end Verdict

/-! ## Whose failure it is -/

theorem Ticket.recorded_cases (t : Ticket) :
    t.recorded = [] ∨ ∃ failure, t.recorded = [failure] := by
  unfold recorded
  split
  · next outcome _ => cases outcome <;> simp [Floor.failureOf]
  · exact .inl rfl

section

variable [Json.Limits]

/-- The failure is that of the message: it has its id, and unless the body is no request it names
the source of the request. -/
structure Failure.IsOf (failure : Failure) (m : Message) : Prop where
  id_eq : failure.id = m.id
  malformed : ∀ reason, PullRequest.ofBody m.body = .error (.malformedRequest reason) →
    failure.source = none
  named : ∀ request, PullRequest.ofBody m.body = .ok request →
    failure.source = some request.source

namespace Verdict

theorem isOf_of_refused {routing : Routing} {m : Message} {failure : Failure}
    (h : Given routing m (.refused failure)) : failure.IsOf m := by
  cases h with
  | malformed hid hbody =>
    refine ⟨rfl, fun _ _ => rfl, fun request hrequest => ?_⟩
    cases hbody.symm.trans hrequest
  | unknown hid hbody hroute =>
    refine ⟨rfl, fun reason hreason => ?_, fun request hrequest => ?_⟩
    · cases hbody.symm.trans hreason
    · cases hbody.symm.trans hrequest
      rfl

theorem isOf_of_recorded {routing : Routing} {m : Message} {t : Ticket}
    (h : Given routing m (.ready t.task)) : ∀ failure ∈ t.recorded, failure.IsOf m := by
  obtain ⟨⟨id, request, route⟩, stage, start, finish⟩ := t
  cases h with
  | ready hid hbody hroute =>
    intro failure hfailure
    cases stage with
    | done outcome =>
      cases outcome with
      | failed cause =>
        rw [List.mem_singleton.mp hfailure]
        refine ⟨rfl, fun reason hreason => ?_, fun request' hrequest => ?_⟩
        · cases hbody.symm.trans hreason
        · cases hbody.symm.trans hrequest
          rfl
      | archived size key => cases hfailure
      | noNewData => cases hfailure
    | waiting => cases hfailure
    | pulling answer => cases hfailure
    | archiving data => cases hfailure
    | settled outcome => cases hfailure
    | released outcome => cases hfailure
    | halted order => cases hfailure

/-- The failures of a floor are those of different messages. -/
theorem exists_origins {routing : Routing} {messages : List Message} {verdicts : List Verdict}
    (h : Judged routing messages verdicts) {tickets : List Ticket}
    (htasks : tickets.map (·.task) = verdicts.filterMap task?) :
    ∃ (origins : List Message) (failures : Failures), origins.Sublist messages ∧
      (verdicts.filterMap failure? ++ tickets.flatMap Ticket.recorded).Perm failures ∧
      List.Forall₂ Failure.IsOf failures origins := by
  induction h generalizing tickets with
  | nil =>
    obtain rfl : tickets = [] := by simpa using htasks
    exact ⟨[], [], .slnil, .refl _, .nil⟩
  | @cons m verdict messages verdicts hm _ ih =>
    have hgiven := given_of_eq_ok hm
    cases verdict with
    | dropped body =>
      obtain ⟨origins, failures, hsub, hperm, hof⟩ :=
        ih (by simpa [List.filterMap_cons] using htasks)
      exact ⟨origins, failures, hsub.cons m, by simpa [List.filterMap_cons] using hperm, hof⟩
    | refused failure =>
      obtain ⟨origins, failures, hsub, hperm, hof⟩ :=
        ih (by simpa [List.filterMap_cons] using htasks)
      refine ⟨m :: origins, failure :: failures, hsub.cons_cons m, ?_,
        .cons (isOf_of_refused hgiven) hof⟩
      simpa [List.filterMap_cons] using hperm
    | ready task =>
      obtain ⟨t, rest, rfl, rfl, hrest⟩ :=
        List.map_eq_cons_iff.mp (by simpa [List.filterMap_cons] using htasks)
      obtain ⟨origins, failures, hsub, hperm, hof⟩ := ih hrest
      rcases t.recorded_cases with hnone | ⟨failure, hone⟩
      · exact ⟨origins, failures, hsub.cons m, by simpa [List.filterMap_cons, hnone] using hperm,
          hof⟩
      · have hofThis := isOf_of_recorded hgiven failure (by simp [hone])
        refine ⟨m :: origins, failure :: failures, hsub.cons_cons m, ?_, .cons hofThis hof⟩
        -- what was recorded late stands behind the failures of before the first pull
        simp only [List.filterMap_cons, failure?_ready, List.flatMap_cons, hone]
        exact List.perm_middle.trans (hperm.cons failure)

end Verdict

/-- The line tells that the message failed: it has the id of the message, and the source that the
message asks for, unless the body is no request. -/
structure Line.TellsFailureOf (line : Line) (m : Message) : Prop where
  level_eq : line.level = .error
  text_eq : ∃ source cause, line.text =
      Text.ofString "Failed message_id: " ++ m.id.display ++ Text.ofString " log_source: " ++
        source ++ Text.ofString ": " ++ cause ∧
    (∀ request, PullRequest.ofBody m.body = .ok request → source = request.source) ∧
    ∀ reason, PullRequest.ofBody m.body = .error (.malformedRequest reason) →
      source = Text.ofString "None"

theorem Failure.IsOf.tells {failure : Failure} {m : Message} (h : failure.IsOf m) :
    failure.line.TellsFailureOf m where
  level_eq := rfl
  text_eq := by
    refine ⟨failure.source.getD (Text.ofString "None"), failure.cause.message, ?_,
      fun request hrequest => ?_, fun reason hreason => ?_⟩
    · rw [← h.id_eq]
      rfl
    · rw [h.named request hrequest, Option.getD_some]
    · rw [h.malformed reason hreason, Option.getD_none]

end

/-! ## The numbers -/

/-- What is recorded behind the failures of before is what the requests failed with. -/
theorem Floor.Accounted.length_late {tasks : List Task} {free : Option Nat} {refused : Failures}
    {f : Floor} (h : Accounted tasks free refused f)
    (hthrough : ∀ t ∈ f.tickets, t.isThrough = true) {late : Failures}
    (hlate : f.failures = refused ++ late) :
    tasks.length = f.succeeded + late.length := by
  have hrecorded : late.length = f.results.countP (·.2.isFailed) := by
    have hperm := (hlate ▸ h.failures_perm).length_eq
    have hfailed := congrArg List.length (map_recorded f)
    rw [List.length_map, List.length_map, ← List.countP_eq_length_filter] at hfailed
    rw [← hfailed]
    simpa using hperm
  have hresults : f.results.length = tasks.length := by
    have hids := congrArg List.length (map_results_of_through hthrough)
    rw [← h.tasks_eq]
    simpa using hids
  rw [← hresults, hrecorded, succeeded, Nat.add_comm]
  simpa using List.length_eq_countP_add_countP (l := f.results) (·.2.isFailed)

namespace Pipeline

theorem among_closing (floor : Floor) (kind : RecordKind) :
    kind.among (closing floor) =
      if kind = .finished then [finished floor.succeeded floor.failures.length] else [] := by
  rw [closing, RecordKind.among_cons, Failures.among_reportLines, List.append_nil]
  exact RecordKind.among_singleton (kind?_finished _ _)

namespace Course

variable [Json.Limits] {p : Pipeline σ} {messages : List Message} {result : BatchResult}
  {verdicts : List Verdict} {late : Failures}

/-- The requests are those that succeed and those that fail late. -/
theorem length_ready (h : p.Course messages result verdicts late) :
    (verdicts.filterMap Verdict.task?).length = result.floor.succeeded + late.length := by
  obtain ⟨free, haccounted⟩ := h.accounted
  exact haccounted.length_late h.through h.failures_eq

/-- Every message is dropped, succeeds or fails. -/
theorem length_messages (h : p.Course messages result verdicts late) :
    verdicts.countP Verdict.isDropped + result.floor.succeeded + result.floor.failures.length =
      messages.length := by
  have hready := h.length_ready
  have hverdicts := Verdict.length_verdicts verdicts
  rw [h.judged.length_eq, h.failures_eq, List.length_append, h.refused_eq, hverdicts]
  omega

/-- The failures are those of messages of the batch, each of a different one. -/
theorem exists_origins (h : p.Course messages result verdicts late) :
    ∃ origins : List Message, origins.Subperm messages ∧
      List.Forall₂ Failure.IsOf result.floor.failures origins := by
  obtain ⟨free, haccounted⟩ := h.accounted
  obtain ⟨origins, failures, hsub, hperm, hof⟩ :=
    Verdict.exists_origins h.judged haccounted.tasks_eq
  -- the failures are listed as they were recorded, not in the order of the messages
  have hall : result.floor.failures.Perm failures :=
    haccounted.failures_perm.trans (h.refused_eq ▸ hperm)
  obtain ⟨origins', hof', hperm'⟩ := List.perm_comp_forall₂ hall hof
  exact ⟨origins', hperm'.subperm.trans hsub.subperm, hof'⟩

end Course

/-! ## Connectors that write in their own name -/

end Pipeline

namespace PageConnector

variable (services : Services σ)

theorem params_isQuiet (route : Route) : (params services route).IsQuiet := by
  unfold params
  split
  · exact .pure _
  · exact .bind (.ask _) fun now => .bind (.liftExcept _) fun start => .pure _

variable [Json.Limits]

theorem get_isQuiet (arn : Text) : (Vault.get services arn).IsQuiet := by
  have hfetch : (Vault.fetch services arn).IsQuiet := by
    refine .bind (.note (by decide) (by decide) _ _) fun _ => .bind (.demand _) fun answer =>
      .bind (.liftExcept _) fun secret => .bind (fun _ => .of_lines_eq rfl) fun _ => .pure _
  intro s
  cases hkept : s.kept.lookup arn with
  | some secret =>
    rw [Vault.runOn_get_of_kept hkept]
    exact .refl s
  | none =>
    rw [Vault.runOn_get_of_not_kept hkept]
    exact hfetch s

theorem pull_isQuiet (route : Route) : (pull services route).IsQuiet := by
  unfold pull
  cases given? route "url" with
  | none => exact .throw _
  | some url =>
    refine .bind ?_ fun request => .bind (.demand _) fun page =>
      .bind (.liftExcept _) fun body => ?_
    · exact .bind (get_isQuiet services _) fun secret =>
        .bind (params_isQuiet services _) fun params => .pure _
    · split
      · refine .bind (.write fun line hline => ?_) fun _ => .pure _
        rw [List.mem_singleton.mp hline]
        rfl
      · exact .pure _

end PageConnector

/-- Workers pull pages only, and that quietly. -/
theorem Worker.make_pullsQuietly [Platform] (services : Services σ) (routing : Routing)
    (writer : ArchiveWriter) (cap : Option Int) :
    (make services routing writer cap).PullsQuietly := by
  intro task s
  rw [begin_make]
  split
  · exact PageConnector.pull_isQuiet services task.route s
  · exact .refl s

theorem Shelf.pullsQuietly (cap : Option Int) : (Shelf.pipeline cap).PullsQuietly := by
  intro task s
  unfold Pipeline.begin
  cases hfind : (Shelf.pipeline cap).connectors.find task.route.type with
  | ok connector =>
    rw [Shelf.eq_connector hfind]
    exact .refl s
  | error fault => exact .refl s

namespace Pipeline

/-! ## The tally -/

/-- The records of a batch, with the number of requests between those of before and of after. -/
theorem records_eq (verdicts : List Verdict) (late : Failures) (floor : Floor) :
    opening verdicts ++ (late.map Failure.line ++ closing floor) =
      verdicts.flatMap Verdict.lines ++ processing (verdicts.filterMap Verdict.task?).length ::
        (late.map Failure.line ++ closing floor) := by
  rw [opening, List.append_assoc]
  rfl

/-- How many records of a kind there are among lines whose records are those of a batch. -/
theorem among_of_records {new : List Line} {verdicts : List Verdict} {requests : Nat}
    {late : Failures} {floor : Floor}
    (h : new.filter Line.isRecord = verdicts.flatMap Verdict.lines ++
      processing requests :: (late.map Failure.line ++ closing floor)) (kind : RecordKind) :
    kind.among new = kind.among (verdicts.flatMap Verdict.lines) ++
      (if kind = .processing then [processing requests] else []) ++
      ((if kind = .failure then late.map Failure.line else []) ++
        if kind = .finished then [finished floor.succeeded floor.failures.length] else []) := by
  rw [← RecordKind.among_records, h, RecordKind.among_append, RecordKind.among_cons,
    RecordKind.among_append, RecordKind.among_singleton (kind?_processing _),
    Failures.among_lines, among_closing, List.append_assoc]

/-- Where a record stands among the records, it stands among the lines. -/
theorem exists_split_of_records {lines before after : List Line} {record : Line}
    (h : lines.filter Line.isRecord = before ++ record :: after) :
    ∃ first second, lines = first ++ record :: second ∧
      first.filter Line.isRecord = before ∧ second.filter Line.isRecord = after := by
  obtain ⟨first, rest, rfl, hfirst, hrest⟩ := List.filter_eq_append_iff.mp h
  obtain ⟨others, second, rfl, hothers, -, hsecond⟩ := List.filter_eq_cons_iff.mp hrest
  refine ⟨first ++ others, second, by simp, ?_, hsecond⟩
  rw [List.filter_append, hfirst, List.filter_eq_nil_iff.mpr hothers, List.append_nil]

/--
**The log accounts for every message.**

Take a batch that comes to a result, where the connectors write in their own name only. There is one
record of the number of requests and one of what came of them. The messages that are dropped, that
succeeded and that failed are all the messages; the requests are those that succeeded and those
whose failure is told later than their number, and the other failures were told before. Failures are
told in the order of the report, each of its own message, with its id and the source it asks for.
-/
theorem log_accounts_for_every_message [Json.Limits] {p : Pipeline σ} (hquiet : p.PullsQuietly)
    {services : Services σ} {messages : List Message} {s s' : Scene σ} {result : BatchResult}
    (h : (p.process services messages).runOn s = (.ok result, s')) :
    ∃ new before after requests, ∃ origins : List Message,
      s'.lines.toList = s.lines.toList ++ new ∧ new = before ++ processing requests :: after ∧
      RecordKind.processing.among new = [processing requests] ∧
      RecordKind.finished.among new =
        [finished result.floor.succeeded result.floor.failures.length] ∧
      (RecordKind.drop.among new).length + result.floor.succeeded +
        result.floor.failures.length = messages.length ∧
      requests = result.floor.succeeded + (RecordKind.failure.among after).length ∧
      result.floor.failures.length =
        result.refused.length + (RecordKind.failure.among after).length ∧
      origins.Subperm messages ∧ result.report.getD [] = origins.map (·.id) ∧
      List.Forall₂ Line.TellsFailureOf (RecordKind.failure.among new) origins := by
  obtain ⟨verdicts, late, hcourse, new, hlines, hrecords⟩ := records_of_process hquiet h
  obtain ⟨origins, hsub, hof⟩ := hcourse.exists_origins
  have hsplit := hrecords.trans (records_eq verdicts late result.floor)
  have hnew := among_of_records hsplit
  obtain ⟨before, after, hplace, -, hafter⟩ := exists_split_of_records hsplit
  have hlate : (RecordKind.failure.among after).length = late.length := by
    rw [← RecordKind.among_records, hafter, RecordKind.among_append, Failures.among_lines,
      among_closing]
    simp
  have hfailures : RecordKind.failure.among new = result.floor.failures.map Failure.line := by
    rw [hnew, Verdict.among_lines, hcourse.failures_eq, hcourse.refused_eq]
    simp
  refine ⟨new, before, after, _, origins, hlines, hplace, ?_, ?_, ?_, ?_, ?_, hsub, ?_, ?_⟩
  · rw [hnew, Verdict.among_lines]
    simp
  · rw [hnew, Verdict.among_lines]
    simp
  · rw [← hcourse.length_messages, ← Verdict.length_drops, hnew]
    simp
  · rw [hlate, hcourse.length_ready]
  · rw [hlate, hcourse.failures_eq, List.length_append]
  · rw [hcourse.report_eq, Failures.getD_report, ← List.forall₂_eq_eq_eq, List.forall₂_map_left_iff,
      List.forall₂_map_right_iff]
    exact hof.imp fun _ _ hthis => hthis.id_eq
  · rw [hfailures, List.forall₂_map_left_iff]
    exact hof.imp fun _ _ hthis => hthis.tells

attribute [local instance] Platform.builtIn

/-- A message without an id, one that breaks off, one for an unknown source and one for a source on
the shelf: one is dropped, one succeeds and two fail, both of them before the first pull. -/
theorem log_accounts_for_four :
    let p := Shelf.pipeline (some 1)
    let messages := [⟨.null, .null⟩, Shelf.message "m1" "\x7b", Shelf.request "m2" "none",
      Shelf.request "m3" "ok"]
    p.PullsQuietly ∧ ∃ result s',
      (p.process Shelf.services messages).runOn (.start (.empty [])) = (.ok result, s') ∧
      ∃ before after, s'.lines.toList = before ++ processing 1 :: after ∧
        RecordKind.failure.among after = [] ∧
        RecordKind.finished.among s'.lines.toList = [finished 1 2] ∧
        (RecordKind.drop.among s'.lines.toList).length = 1 := by
  have hnumbers : (Shelf.run (some 1) [⟨.null, .null⟩, Shelf.message "m1" "\x7b",
      Shelf.request "m2" "none", Shelf.request "m3" "ok"]).1.toOption.map (fun result =>
        (result.floor.succeeded, result.floor.failures.length, result.refused.length)) =
      some (1, 2, 2) := by cbv
  intro p messages
  have hquiet : p.PullsQuietly := Shelf.pullsQuietly _
  rcases hrun : (p.process Shelf.services messages).runOn (.start (.empty [])) with
    ⟨fault | result, s'⟩ <;> rw [Shelf.run, hrun] at hnumbers
  · cases hnumbers
  obtain ⟨hsucceeded, hfailed, hrefused⟩ : result.floor.succeeded = 1 ∧
      result.floor.failures.length = 2 ∧ result.refused.length = 2 := by
    simpa [Except.toOption] using hnumbers
  obtain ⟨new, before, after, requests, -, hlines, hplace, -, hfinished, hcount, hrequests, hlate,
    -⟩ := log_accounts_for_every_message hquiet hrun
  obtain rfl : s'.lines.toList = new := hlines
  rw [hsucceeded, hfailed] at hfinished
  rw [hfailed, hrefused] at hlate
  have hnone : RecordKind.failure.among after = [] := List.eq_nil_of_length_eq_zero (by omega)
  obtain rfl : requests = 1 := by rw [hrequests, hsucceeded, hnone, List.length_nil]
  have hfour : messages.length = 4 := rfl
  exact ⟨hquiet, result, s', rfl, before, after, hplace, hnone, hfinished, by omega⟩

end Pipeline

end LogHarvest
