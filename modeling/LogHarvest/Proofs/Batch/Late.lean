import LogHarvest.Proofs.Batch.Ledger

/-!
# Failures that come late

A message fails before the first pull, by its verdict, or late, while its source is pulled or its
logs are archived. The two can be told apart by the cause: what fails late is blamed on the
connector or on the archive, and on nothing else.
-/

namespace LogHarvest

variable {σ : Type}

/-! ## Archiving -/

namespace ArchiveWriter

variable (w : ArchiveWriter) (services : Services σ)

/-- The lines about logs that are about to be stored. -/
def storing (source key : Text) : List Line :=
  [⟨.info, .archive, Text.ofString "Uploading data for " ++ source⟩,
    ⟨.info, .archive, Text.ofString "Writing to s3://" ++ w.bucket ++ Text.ofString "/" ++ key⟩]

/-- The key that is drawn for logs of a source. -/
def drawnKey (source : Text) (s : Scene σ) : Text := key source (services.freshId.run s.outside).1

/-- The scene in which logs are stored: an identifier has been drawn, and lines were written. -/
def drawn (source : Text) (s : Scene σ) : Scene σ :=
  { s.write (w.storing source (drawnKey services source s)) with
    outside := (services.freshId.run s.outside).2 }

theorem runOn_archive_nil (source : Text) (s : Scene σ) :
    (w.archive services [] source).runOn s = (.ok .noNewData, s.write
      [⟨.info, .archive, Text.ofString "No new data for log_source: " ++ source⟩]) := rfl

/-- Where there are logs, they are stored under a key of their own. -/
theorem runOn_archive_of_ne_nil {data : Bytes} (hdata : data ≠ []) (source : Text) (s : Scene σ) :
    (w.archive services data source).runOn s =
      (w.archiveAs services source (drawnKey services source s) data).runOn
        (w.drawn services source s) := by
  have hempty : data.isEmpty = false := by simpa using hdata
  simp only [archive, hempty, freshKey, Bool.false_eq_true, if_false, Act.runOn_bind,
    Act.runOn_note, Act.runOn_ask, Act.runOn_pure]
  -- the two lines are written one after the other
  rw [drawn, storing, ← List.singleton_append, ← Scene.write_write]
  rfl

end ArchiveWriter

/-! ## Who is to blame -/

/-- The fault of a pull, or of archiving what was pulled. -/
inductive Fault.IsLate : Fault → Prop
  | connector (source : Text) (cause : Fault) : IsLate (.connector source cause)
  | archive (source key : Text) (cause : Fault) : IsLate (.archive source key cause)

/-- If the outcome is a failure, it is a late one. -/
def Outcome.IsLate (outcome : Outcome) : Prop :=
  ∀ cause, outcome = .failed cause → cause.IsLate

/-- The request has no outcome yet, or one that is no failure or a late one. -/
def Stage.IsLate : Stage → Prop
  | .settled outcome | .released outcome | .done outcome => outcome.IsLate
  | _ => True

theorem Outcome.isLate_failed {cause : Fault} (h : cause.IsLate) : (failed cause).IsLate := by
  rintro _ ⟨⟩
  exact h

theorem Floor.isLate_afterFault {fault cause : Fault} (h : cause.IsLate) :
    (afterFault fault cause).IsLate := by
  unfold afterFault
  split
  · trivial
  · exact Outcome.isLate_failed h

theorem Floor.isLate_afterPull (source : Text) (answer : Except Fault Bytes) :
    (afterPull source answer).IsLate := by
  cases answer with
  | ok data => trivial
  | error fault => exact isLate_afterFault (.connector source fault)

namespace Pipeline

variable (p : Pipeline σ) (services : Services σ)

theorem settle_isLate (data : Bytes) (source : Text) (s : Scene σ) :
    ((p.settle services data source).run s).1.IsLate := by
  show (Floor.afterArchive source ((p.writer.archive services data source).runOn s).1).IsLate
  by_cases hdata : data = []
  · rw [hdata, p.writer.runOn_archive_nil]
    rintro cause ⟨⟩
  · rw [p.writer.runOn_archive_of_ne_nil services hdata]
    rcases hput : (p.writer.put services (ArchiveWriter.drawnKey services source s) data).runOn
      (p.writer.drawn services source s) with ⟨fault | _, s'⟩
    · obtain ⟨shown, lines, hstage, -⟩ := archiveAs_of_error services hput source
      rw [hstage]
      exact Floor.isLate_afterFault (.archive source shown fault)
    · rw [archiveAs_of_ok services hput]
      rintro cause ⟨⟩

/-- All outcomes so far are late failures or none, and so is all that was recorded behind the
failures of before. -/
def FailsLate (refused : Failures) (f : Floor) : Prop :=
  (∀ t ∈ f.tickets, t.stage.IsLate) ∧
    ∃ late, f.failures = refused ++ late ∧ ∀ failure ∈ late, failure.cause.IsLate

theorem failsLate_start (tasks : List Task) (permits : Option Nat) (refused : Failures) :
    FailsLate refused (.start tasks permits refused) := by
  refine ⟨?_, [], (List.append_nil _).symm, by simp⟩
  simp only [Floor.start, List.mem_map]
  rintro t ⟨task, -, rfl⟩
  trivial

theorem isLate_of_modify {ts : List Ticket} {i : Nat} {t : Ticket} {change : Ticket → Ticket}
    (h : ∀ t ∈ ts, t.stage.IsLate) (ht : ts[i]? = some t) (hchange : (change t).stage.IsLate) :
    ∀ t ∈ ts.modify i change, t.stage.IsLate := by
  obtain ⟨before, after, rfl, hmod⟩ := Floor.exists_split_of_modify ht change
  rw [hmod]
  intro t' ht'
  rcases List.mem_append.mp ht' with hb | hb
  · exact h t' (List.mem_append_left _ hb)
  · rcases List.mem_cons.mp hb with rfl | hb
    · exact hchange
    · exact h t' (List.mem_append_right _ (List.mem_cons_of_mem _ hb))

/-- The step lemma: what a move adds is a late failure. -/
theorem move_failsLate {refused : Failures} (f : Floor) (i : Nat) (t : Ticket) (s : Scene σ)
    (ht : f.tickets[i]? = some t) (h : FailsLate refused f) :
    FailsLate refused ((p.move services f i t).run s).1 := by
  obtain ⟨htickets, late, hfailures, hlate⟩ := h
  have hown : t.stage.IsLate := htickets t (List.mem_of_getElem? ht)
  unfold Pipeline.move
  cases hs : t.stage with
  | waiting => exact ⟨isLate_of_modify htickets ht trivial, late, hfailures, hlate⟩
  | pulling answer =>
    exact ⟨isLate_of_modify htickets ht (Floor.isLate_afterPull t.task.source answer), late,
      hfailures, hlate⟩
  | archiving data =>
    exact ⟨isLate_of_modify htickets ht (p.settle_isLate services data t.task.source s), late,
      hfailures, hlate⟩
  | settled outcome =>
    rw [hs] at hown
    exact ⟨isLate_of_modify htickets ht hown, late, hfailures, hlate⟩
  | released outcome =>
    rw [hs] at hown
    refine ⟨isLate_of_modify htickets ht hown, late ++ (Floor.failureOf t outcome).toList, ?_, ?_⟩
    · show f.failures ++ _ = _
      rw [hfailures, List.append_assoc]
    · intro failure hfailure
      rcases List.mem_append.mp hfailure with hold | hnew
      · exact hlate failure hold
      · cases outcome with
        | failed cause =>
          rw [List.mem_singleton.mp hnew]
          exact hown cause rfl
        | archived size key => cases hnew
        | noNewData => cases hnew
  | done _ | halted _ => exact ⟨htickets, late, hfailures, hlate⟩

/-- The failures of a batch are those of before the first pull, and behind them late ones. -/
theorem exists_late [Json.Limits] {messages : List Message} {s s' : Scene σ} {result : BatchResult}
    (h : (p.process services messages).runOn s = (.ok result, s')) :
    ∃ late, result.floor.failures = result.refused ++ late ∧
      ∀ failure ∈ late, failure.cause.IsLate := by
  obtain ⟨verdicts, free, floor, after, -, -, hrun, -, rfl, -⟩ := p.process_eq_ok services h
  have hlate := p.moves_keeps services (P := fun f _ =>
    FailsLate (verdicts.filterMap Verdict.failure?) f)
    (fun f i t s ht hf => p.move_failsLate services f i t s ht hf) (dispatch verdicts free).todo
    (s := s.write (opening verdicts))
    (failsLate_start (verdicts.filterMap Verdict.task?) free _)
  rw [dispatch, run] at hrun
  rw [dispatch, hrun] at hlate
  exact hlate.2

end Pipeline

end LogHarvest
