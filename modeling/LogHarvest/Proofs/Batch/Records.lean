import LogHarvest.Proofs.Batch.Ledger

/-!
# The records of a batch

Among the lines that are written while a batch is processed some are about the batch itself: those
about its messages, about its failures, and about how many there are. What pulls and archiving write
in between is left out of account. `records_of_process` says which records there are, in which
order: the verdicts, the number of requests, a line for each failure as it is recorded, and the
numbers at the end.
-/

namespace LogHarvest

variable {σ : Type}

/-! ## Records -/

/-- Whether the line is about the batch or its failures. -/
def Line.isRecord (line : Line) : Bool := line.topic == .batch || line.topic == .failures

namespace Scene

/-- The later scene has more lines, and these are the records among them. -/
def Adds (s s' : Scene σ) (records : List Line) : Prop :=
  ∃ new, s'.lines.toList = s.lines.toList ++ new ∧ new.filter Line.isRecord = records

namespace Adds

variable {s s' s'' : Scene σ} {records records' : List Line}

theorem of_lines_eq (h : s'.lines = s.lines) : s.Adds s' [] :=
  ⟨[], by rw [h, List.append_nil], rfl⟩

theorem refl (s : Scene σ) : s.Adds s [] := of_lines_eq rfl

theorem trans (h : s.Adds s' records) (h' : s'.Adds s'' records') :
    s.Adds s'' (records ++ records') := by
  obtain ⟨new, hlines, rfl⟩ := h
  obtain ⟨new', hlines', rfl⟩ := h'
  exact ⟨new ++ new', by rw [hlines', hlines, List.append_assoc], List.filter_append ..⟩

theorem write (s : Scene σ) (lines : List Line) :
    s.Adds (s.write lines) (lines.filter Line.isRecord) :=
  ⟨lines, by simp [Scene.write], rfl⟩

/-- Records are all that is added. -/
theorem write_records (s : Scene σ) {lines : List Line}
    (h : ∀ line ∈ lines, line.isRecord = true) : s.Adds (s.write lines) lines := by
  have hwrite := write s lines
  rwa [List.filter_eq_self.mpr h] at hwrite

/-- Other lines are no records. -/
theorem write_others (s : Scene σ) {lines : List Line}
    (h : ∀ line ∈ lines, line.isRecord = false) : s.Adds (s.write lines) [] := by
  have hwrite := write s lines
  rwa [List.filter_eq_nil_iff.mpr fun line hline => by simp [h line hline]] at hwrite

/-- What adds nothing may come behind. -/
theorem then_nothing (h : s.Adds s' records) (h' : s'.Adds s'' []) : s.Adds s'' records := by
  have hall := h.trans h'
  rwa [List.append_nil] at hall

end Adds

end Scene

/-! ## Pulls and archiving add no records -/

/-- Whatever is pulled, the connectors write in their own name only. -/
def Pipeline.PullsQuietly (p : Pipeline σ) : Prop :=
  ∀ task (s : Scene σ), s.Adds ((p.begin task).run s).2 []

namespace Act

variable {α : Type}

/-- From every scene the activity adds no records, whether it fails or not. -/
def IsQuiet (act : Act σ α) : Prop := ∀ s : Scene σ, s.Adds (act.runOn s).2 []

namespace IsQuiet

variable {β : Type}

theorem pure (a : α) : IsQuiet (Pure.pure a : Act σ α) := fun s => .refl s

theorem throw (fault : Fault) : IsQuiet (throw fault : Act σ α) := fun s => .refl s

theorem bind {act : Act σ α} {next : α → Act σ β} (h : act.IsQuiet)
    (hnext : ∀ a, (next a).IsQuiet) : (act >>= next).IsQuiet := by
  intro s
  have hfirst := h s
  rw [runOn_bind]
  rcases hr : act.runOn s with ⟨fault | a, s'⟩ <;> rw [hr] at hfirst
  · exact hfirst
  · exact hfirst.then_nothing (hnext a s')

theorem liftExcept (e : Except Fault α) : IsQuiet (liftM e : Act σ α) := by
  cases e with
  | ok a => exact pure a
  | error fault => exact throw fault

theorem ask (question : StateM σ α) : IsQuiet (ask question) :=
  fun _ => .of_lines_eq rfl

theorem demand (question : StateM σ (Except Fault α)) : IsQuiet (demand question) := by
  intro s
  rw [runOn_demand]
  exact .of_lines_eq rfl

theorem attempt {act : Act σ α} (h : act.IsQuiet) : IsQuiet (attempt act) := h

theorem write {lines : List Line} (h : ∀ line ∈ lines, line.isRecord = false) :
    IsQuiet (Act.write lines : Act σ Unit) := fun s => .write_others s h

theorem note {topic : Topic} (h : topic ≠ .batch) (h' : topic ≠ .failures) (level : Level)
    (text : Text) : IsQuiet (Act.note level topic text : Act σ Unit) := by
  refine write fun line hline => ?_
  rw [List.mem_singleton.mp hline]
  simp [Line.isRecord, h, h']

end IsQuiet

end Act

namespace ArchiveWriter

variable (w : ArchiveWriter) (services : Services σ)

theorem isRecord_errorLine {key : Text} {fault : Fault} {line : Line}
    (h : errorLine? key fault = some line) : line.isRecord = false := by
  unfold errorLine? at h
  split at h <;> cases h <;> rfl

theorem archive_isQuiet (data : Bytes) (source : Text) :
    (w.archive services data source).IsQuiet := by
  have hput : ∀ key, (w.put services key data).IsQuiet :=
    fun key => .bind (.liftExcept _) fun body => .demand _
  have has : ∀ key, (w.archiveAs services source key data).IsQuiet := by
    refine fun key => .bind (.attempt (hput key)) fun r => ?_
    cases r with
    | ok _ => exact .pure _
    | error fault =>
      cases hline : errorLine? key fault with
      | none => simpa only [hline] using .throw fault
      | some line =>
        have hquiet : (Act.write [line] : Act σ Unit).IsQuiet := .write fun line' hline' => by
          rw [List.mem_singleton.mp hline']
          exact isRecord_errorLine hline
        simpa only [hline] using hquiet.bind fun _ => .pure _
  unfold archive
  split
  · exact .bind (.note (by decide) (by decide) _ _) fun _ => .pure _
  · exact .bind (.note (by decide) (by decide) _ _) fun _ =>
      .bind (.bind (.ask _) fun id => .pure _) fun key =>
        .bind (.note (by decide) (by decide) _ _) fun _ => has key

end ArchiveWriter

namespace Pipeline

variable (p : Pipeline σ) (services : Services σ)

theorem settle_adds (data : Bytes) (source : Text) (s : Scene σ) :
    s.Adds ((p.settle services data source).run s).2 [] :=
  p.writer.archive_isQuiet services data source s

/-! ## A line for each failure -/

/-- The failures behind those of before are those whose lines are among the records since the
scene, in the same order. -/
def Tells (refused : Failures) (start : Scene σ) (f : Floor) (s : Scene σ) : Prop :=
  ∃ late, f.failures = refused ++ late ∧ start.Adds s (late.map Failure.line)

/-- The step lemma: a move that records a failure tells it. -/
theorem move_tells {p : Pipeline σ} (hquiet : p.PullsQuietly) {refused : Failures}
    {start : Scene σ} (f : Floor) (i : Nat) (t : Ticket) (s : Scene σ)
    (h : Tells refused start f s) :
    Tells refused start ((p.move services f i t).run s).1 ((p.move services f i t).run s).2 := by
  obtain ⟨late, hfailures, hadds⟩ := h
  unfold Pipeline.move
  cases t.stage with
  | waiting => exact ⟨late, hfailures, hadds.then_nothing (hquiet t.task s)⟩
  | pulling answer => exact ⟨late, hfailures, hadds.then_nothing (.of_lines_eq rfl)⟩
  | archiving data =>
    exact ⟨late, hfailures,
      hadds.then_nothing (p.settle_adds services data t.task.source s)⟩
  | settled outcome => exact ⟨late, hfailures, hadds⟩
  | released outcome =>
    refine ⟨late ++ (Floor.failureOf t outcome).toList, ?_, ?_⟩
    · show f.failures ++ _ = _
      rw [hfailures, List.append_assoc]
    · rw [List.map_append]
      refine hadds.trans (.write_records s fun line hline => ?_)
      obtain ⟨failure, -, rfl⟩ := List.mem_map.mp hline
      rfl
  | done _ | halted _ => exact ⟨late, hfailures, hadds⟩

/-! ## The records of a batch -/

/-- The line about the number of requests. -/
def processing (n : Nat) : Line :=
  ⟨.info, .batch, Text.ofString "Processing " ++ Text.ofNat n ++ Text.ofString " messages."⟩

/-- The line about what came of them. -/
def finished (succeeded failed : Nat) : Line :=
  ⟨.info, .batch, Text.ofString "Finished batch: " ++ Text.ofNat succeeded ++
    Text.ofString " succeeded, " ++ Text.ofNat failed ++ Text.ofString " failed."⟩

theorem isRecord_opening (verdicts : List Verdict) :
    ∀ line ∈ opening verdicts, line.isRecord = true := by
  intro line hline
  rcases List.mem_append.mp hline with hverdict | hlast
  · obtain ⟨verdict, -, hmem⟩ := List.mem_flatMap.mp hverdict
    cases verdict with
    | dropped body => rw [List.mem_singleton.mp hmem]; rfl
    | refused failure => rw [List.mem_singleton.mp hmem]; rfl
    | ready task => cases hmem
  · rw [List.mem_singleton.mp hlast]
    rfl

theorem isRecord_closing (floor : Floor) : ∀ line ∈ closing floor, line.isRecord = true := by
  intro line hline
  rcases List.mem_cons.mp hline with rfl | hreport
  · rfl
  · unfold Failures.reportLines at hreport
    split at hreport
    · cases hreport
    · rw [List.mem_singleton.mp hreport]
      rfl

/-- A run tells of each failure as it is recorded. -/
theorem run_tells {p : Pipeline σ} (hquiet : p.PullsQuietly) {services : Services σ}
    {tasks : List Task} {free : Option Nat} {refused : Failures} {s after : Scene σ} {floor : Floor}
    (hrun : (p.run services (.start tasks free refused)).run s = (floor, after)) :
    Tells refused s floor after := by
  have htells := p.moves_keeps services (P := Tells refused s)
    (fun f i t s' _ hf => move_tells services hquiet f i t s' hf)
    (Floor.start tasks free refused).todo (f := .start tasks free refused)
    ⟨[], (List.append_nil _).symm, .refl _⟩
  rw [run] at hrun
  rwa [hrun] at htells

/-- The course of a batch that comes to a result: its messages are judged, every request gets
through, and late failures are recorded behind those of before the first pull. -/
structure Course [Json.Limits] (p : Pipeline σ) (messages : List Message) (result : BatchResult)
    (verdicts : List Verdict) (late : Failures) : Prop where
  judged : Verdict.Judged p.routing messages verdicts
  report_eq : result.report = result.floor.failures.report
  refused_eq : result.refused = verdicts.filterMap Verdict.failure?
  failures_eq : result.floor.failures = result.refused ++ late
  accounted : ∃ free,
    Floor.Accounted (verdicts.filterMap Verdict.task?) free result.refused result.floor
  through : ∀ t ∈ result.floor.tickets, t.isThrough = true

/-- The records of a batch are the lines on its verdicts, the number of its requests, a line for
each late failure, and the lines at its end. -/
theorem records_of_process [Json.Limits] {p : Pipeline σ} (hquiet : p.PullsQuietly)
    {services : Services σ} {messages : List Message} {s s' : Scene σ} {result : BatchResult}
    (h : (p.process services messages).runOn s = (.ok result, s')) :
    ∃ verdicts late, p.Course messages result verdicts late ∧
      s.Adds s' (opening verdicts ++ (late.map Failure.line ++ closing result.floor)) := by
  obtain ⟨verdicts, free, floor, after, hjudged, hfree, hrun, horder, rfl, rfl⟩ :=
    p.process_eq_ok services h
  obtain ⟨late, hfailures, hadds⟩ := run_tells hquiet hrun
  obtain ⟨haccounted, hthrough⟩ := p.run_dispatch_spec services hfree hrun
  refine ⟨verdicts, late,
    ⟨hjudged, rfl, rfl, hfailures, ⟨free, haccounted⟩, hthrough horder⟩, ?_⟩
  exact (Scene.Adds.write_records s (isRecord_opening verdicts)).trans
    (hadds.trans (.write_records after (isRecord_closing floor)))

end Pipeline

end LogHarvest
