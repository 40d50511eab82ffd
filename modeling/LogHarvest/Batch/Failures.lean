import LogHarvest.Journal

/-!
# Failures of a batch

The messages that a queue has to deliver again, in the order in which they failed. One that fails twice is listed
twice. Every failure is worth a line of its own, and a report that lists any is worth one more.
-/

namespace LogHarvest

/-- A message that failed, and why. The source is missing where the message names none. -/
structure Failure where
  id : Json
  source : Option Text
  cause : Fault
deriving Repr

/-- The line about a failure. -/
def Failure.line (f : Failure) : Line :=
  ⟨.error, .failures,
    Text.ofString "Failed message_id: " ++ f.id.display ++ Text.ofString " log_source: " ++
      f.source.getD (Text.ofString "None") ++ Text.ofString ": " ++ f.cause.message⟩

/-- The messages that failed so far. -/
abbrev Failures := List Failure

namespace Failures

/-- The ids to report; none where all messages may be deleted. -/
def report (fs : Failures) : Option (List Json) :=
  if fs.isEmpty then none else some (fs.map (·.id))

/-- What the journal says about a report. -/
def reportLines (fs : Failures) : List Line :=
  if fs.isEmpty then []
  else [⟨.error, .failures,
    Text.ofString "Encountered " ++ Text.ofNat fs.length ++
      Text.ofString " errors processing messages, returning to SQS"⟩]

/-- A report in the form that a queue expects. -/
def reportJson (ids : List Json) : Json :=
  .object [(Text.ofString "batchItemFailures",
    .array (ids.map fun id => .object [(Text.ofString "itemIdentifier", id)]))]

/-- There is no report exactly if nothing failed. -/
theorem report_eq_none_iff (fs : Failures) : fs.report = none ↔ fs = [] := by
  cases fs <;> simp [report]

end Failures

end LogHarvest
