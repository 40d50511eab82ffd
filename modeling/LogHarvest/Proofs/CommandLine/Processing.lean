import LogHarvest.Proofs.CommandLine.Starting
import LogHarvest.Proofs.Worker.Exchange
import LogHarvest.Proofs.Worker.Responses

/-!
# Processing an event from a file

An event may be handed to a worker that was started for it and the likes of it, or stand in a file
that is given to `process`. Both ways come to the same: `process` prints the response of the worker
and tells by its exit code whether there is one, and where no worker starts it ends before any
service is asked for anything.
-/

namespace LogHarvest.CommandLine

open Session

variable {σ : Type}

/-! ## Files with events -/

theorem exists_text_of_holdsEvent [Platform] {files : FileTree} {path : Text} {event : Json}
    (h : HoldsEvent files path event) :
    ∃ text : Text, text.IsPlain ∧ Json.read text = .ok event := by
  obtain ⟨content, -, hevent⟩ := h
  unfold eventOf at hevent
  split at hevent
  · cases hevent
  · next chars _ =>
    refine ⟨_, Text.isPlain_map chars, ?_⟩
    cases hread : Json.read (chars.map Symbol.char) with
    | error fault =>
      rw [hread] at hevent
      cases hevent
    | ok v =>
      rw [hread] at hevent
      cases hevent
      rfl

/-! ## The end of a command -/

/-- The exit status of a program in which this came of a command. What escapes ends it with 1. -/
def exitStatus : Except Fault Nat → Nat
  | .ok code => code
  | .error _ => 1

theorem exitStatus_refused (reason : Text) (scene : Scene σ) :
    exitStatus ((refused reason scene).1.map exitCode) = 1 := by
  unfold refused
  split <;> rfl

theorem trace_refused {α : Type} (reason : Text) (scene : Scene (Traced σ)) :
    (@refused (Traced σ) α reason scene).2.trace = scene.trace := by
  unfold refused
  split <;> rfl

/-! ## From the start of a worker to the end of the command -/

section Commands

variable [Platform]

section Process

variable {services : Services σ} {files : FileTree} {env : Environment} {arguments : List Text}
  {path : Text} {event : Json} {worker : Pipeline σ} {scene started ended : Scene σ} {fault : Fault}

/-- A result is printed, and a report makes for exit code 2. -/
theorem runOn_processWith_of_ok {result : BatchResult}
    (h : (Worker.handle worker services event).runOn started = (.ok result, ended)) :
    (processWith services worker event).runOn started =
      (.ok (if result.report.isSome then .error 2 else .ok ()),
        ended.printing (Worker.response result).print) := by
  have hprint := Act.runOn_print_of_plain (Json.isPlain_print (Worker.response result)) ended
  rw [processWith, runOn_bind_of_ok (runOn_liftM_of_ok h),
    runOn_bind_of_ok (runOn_liftM_of_ok hprint)]
  cases result.report.isSome <;> rfl

theorem runOn_processWith_of_error
    (h : (Worker.handle worker services event).runOn started = (.error fault, ended)) :
    (processWith services worker event).runOn started = (.error fault, ended) := by
  rw [processWith, runOn_bind_of_fault (runOn_liftM_of_error h)]

/-- Where a worker starts, the event is processed with it. -/
theorem runOn_run_of_started (hcommand : Platform.arguments arguments = .ok (.process path none))
    (hevent : HoldsEvent files path event)
    (hstart : (Worker.startFrom services files env).runOn scene = (.ok worker, started)) (n : Nat) :
    (run services files env n arguments).runOn scene =
      (((processWith services worker event).runOn started).1.map exitCode,
        ((processWith services worker event).runOn started).2) := by
  rcases runOn_ready services files env scene with ⟨p, s', hok, hready⟩ | ⟨fault, s', -, herror, -⟩
  · cases hstart.symm.trans hok
    rw [runOn_run hcommand, runCommand, runOn_processEvent hevent, runOn_bind_of_ok hready]
  · cases hstart.symm.trans herror

end Process

/-! ## Starting asks for nothing -/

theorem trace_of_startFrom (services : Services σ) {files : FileTree} {env : Environment}
    {scene failed : Scene (Traced σ)} {fault : Fault}
    (h : (Worker.startFrom services.traced files env).runOn scene = (.error fault, failed)) :
    failed.trace = scene.trace := by
  have hleads := Worker.start_leads services.traced (I := fun s => s.trace = scene.trace)
    (fun _ _ hs => hs) (fun _ _ hs => hs) (fun _ _ _ hs => hs) files env scene rfl
  rw [h] at hleads
  exact hleads.2 _ rfl

/--
**`process` does what a worker does that is handed the event.**

Take a file that holds an event. Where a worker starts and handles the event, `process` on the file
leaves the scene that the worker leaves, with the response printed; its exit code is 0 if there is
no response and 2 if there is one, and where all ids in the response are strings, the line that was
printed is read back as the response. What the worker fails with escapes from `process`. Where a
worker cannot start, as a setting, the catalog or a path announces, `process` ends with 1, and it
has asked for no secret, no page and no object.
-/
theorem process_agrees_with_worker {files : FileTree} {arguments : List Text} {path : Text}
    {event : Json} (hcommand : Platform.arguments arguments = .ok (.process path none))
    (hevent : HoldsEvent files path event) (services : Services σ) (env : Environment) (n : Nat) :
    (∀ scene worker started,
        (Worker.startFrom services files env).runOn scene = (.ok worker, started) →
        (∀ result ended,
          (Worker.handle worker services event).runOn started = (.ok result, ended) →
          ∃ code,
            (run services files env n arguments).runOn scene =
              (.ok code, ended.printing (Worker.response result).print) ∧
            (code = 0 ↔ Worker.response result = .null) ∧
            (code = 2 ↔ Worker.response result ≠ .null) ∧
            (QueueSource.AreTexts (Worker.reportedIds (Worker.response result)) →
              Json.read (Worker.response result).print = .ok (Worker.response result))) ∧
        ∀ fault ended,
          (Worker.handle worker services event).runOn started = (.error fault, ended) →
          (run services files env n arguments).runOn scene = (.error fault, ended)) ∧
      ∀ (scene : Scene (Traced σ)) fault failed,
        (Worker.startFrom services.traced files env).runOn scene = (.error fault, failed) →
        forbidsStart fault = true →
        exitStatus ((run services.traced files env n arguments).runOn scene).1 = 1 ∧
          ((run services.traced files env n arguments).runOn scene).2.trace = scene.trace := by
  constructor
  · intro scene worker started hstart
    rw [runOn_run_of_started hcommand hevent hstart n]
    constructor
    · intro result ended hhandle
      obtain ⟨text, htext, hread⟩ := exists_text_of_holdsEvent hevent
      rw [runOn_processWith_of_ok hhandle, Ne, Worker.response_eq_null_iff]
      refine ⟨if result.report.isSome then 2 else 0, ?_, ?_, ?_,
        Worker.read_response htext hread hhandle⟩
      all_goals cases result.report <;> simp [exitCode, Except.map]
    · intro fault ended hhandle
      rw [runOn_processWith_of_error hhandle]
      rfl
  · intro scene fault failed hstart hfault
    obtain ⟨preface, hstopped⟩ := runOn_process_of_unstarted hevent hstart n
    rw [stopped, if_pos hfault] at hstopped
    rw [runOn_run hcommand, hstopped]
    exact ⟨exitStatus_refused _ _, (trace_refused _ _).trans (trace_of_startFrom services hstart)⟩

end Commands

/-! ### Half of a pair for an id -/

attribute [local instance] Platform.builtIn

/-- The text of an event with one message, which has no body and half of a pair for its id. -/
def halfText : Text := "\x7b\"Records\": [\x7b\"messageId\": \"\\ud800\"\x7d]\x7d"

/-- The event that this text spells. -/
def halfEvent : Json :=
  .object [("Records", .array [.object [("messageId", .string [.half 0])]])]

/-- An empty catalog, and a file that holds this event. -/
def halfFiles : FileTree :=
  .folder [("c", .folder []), ("e", .file (halfText.map fun s => UInt8.ofNat s.code))]

/-- A worker for this catalog. -/
def idleWorker : Pipeline Unit :=
  Worker.make (Counter.services id) ⟨[]⟩ (.ofBucket "bucket") none

/-- What is written about this catalog. -/
def loaded : Line := ⟨.info, .catalog, "loaded 0 managed log sources from /c"⟩

theorem idleWorker_starts : ∃ started,
    (Worker.startFrom (Counter.services id) halfFiles Counter.environment).runOn (.start ()) =
      (.ok idleWorker, started) := by
  have hsettings : Settings.ofEnvironment Counter.environment = .ok Counter.settings := by cbv
  have hload : (Catalog.load halfFiles "/c").runOn #[] = (.ok [], #[loaded]) := by cbv
  have hroutes : (Routing.ofCatalog [] Counter.settings.connectorTypes
      Counter.settings.secretArns).runOn #[loaded] = (.ok ⟨[]⟩, #[loaded]) := by cbv
  obtain ⟨routing, lines', started, hrouting, hstart⟩ := Worker.start_of_readable
    (s := Scene.start ()) (Counter.services id) hsettings rfl rfl hload
  rw [hroutes] at hrouting
  cases hrouting
  exact ⟨started, hstart⟩

theorem idleWorker_reports (scene : Scene Unit) : ∃ result ended,
    (Worker.handle idleWorker (Counter.services id) halfEvent).runOn scene = (.ok result, ended) ∧
      Worker.response result = Failures.reportJson [.string [.half 0]] := by
  have hreport : ((Worker.handle idleWorker (Counter.services id) halfEvent).runOn scene).1.map
      (·.report) = .ok (some [.string [.half 0]]) := by
    obtain ⟨outside, kept, lines, journal, polling, clock, printed⟩ := scene
    cbv
  rcases hhandle : (Worker.handle idleWorker (Counter.services id) halfEvent).runOn scene with
    ⟨fault | result, ended⟩
  · rw [hhandle] at hreport
    cases hreport
  · rw [hhandle] at hreport
    have hsome : result.report = some [.string [.half 0]] := Except.ok.inj hreport
    exact ⟨result, ended, rfl, by rw [Worker.response, hsome]⟩

/-- The text of the response to this event. -/
def halfAnswer : Text :=
  "\x7b\"batchItemFailures\": [\x7b\"itemIdentifier\": \"\\ud800\"\x7d]\x7d"

/-- Half of a pair is printed as its escape, which is read back as this half. Without settings the
same command ends with 1 and asks for nothing. -/
theorem half_is_reported :
    (∃ ended : Scene Unit, (run (Counter.services id) halfFiles Counter.environment 0
          ["process", "e"]).runOn (.start ()) = (.ok 2, ended.printing halfAnswer) ∧
        Json.read halfAnswer = .ok (Failures.reportJson [.string [.half 0]])) ∧
      exitStatus ((run (Counter.services id).traced halfFiles [] 0 ["process", "e"]).runOn
          (.start ⟨(), []⟩)).1 = 1 ∧
        ((run (Counter.services id).traced halfFiles [] 0 ["process", "e"]).runOn
          (.start ⟨(), []⟩)).2.trace = [] := by
  have hcommand : Platform.arguments ["process", "e"] = .ok (.process "e" none) := by decide
  have hevent : HoldsEvent halfFiles "e" halfEvent := ⟨_, rfl, by cbv⟩
  obtain ⟨started, hstart⟩ := idleWorker_starts
  obtain ⟨result, ended, hhandle, hresponse⟩ := idleWorker_reports started
  have hprint : (Worker.response result).print = halfAnswer := by
    rw [hresponse]
    cbv
  constructor
  · obtain ⟨hreturns, -⟩ := (process_agrees_with_worker hcommand hevent (Counter.services id)
      Counter.environment 0).1 _ _ _ hstart
    obtain ⟨code, hrun, -, hcode, hread⟩ := hreturns result ended hhandle
    have htexts : QueueSource.AreTexts (Worker.reportedIds (Worker.response result)) := by
      rw [hresponse]
      exact fun id hid => ⟨_, List.mem_singleton.mp hid⟩
    have hsome : Worker.response result ≠ .null := by
      rw [hresponse]
      exact Json.noConfusion
    obtain rfl := hcode.mpr hsome
    rw [hprint] at hrun hread
    exact ⟨ended, hrun, hresponse ▸ hread htexts⟩
  · exact (process_agrees_with_worker hcommand hevent (Counter.services id) [] 0).2
      (.start ⟨(), []⟩) (.catalog (.notSet (Text.ofString "PULLER_LOG_SOURCE_TYPES"))) _ rfl rfl

end LogHarvest.CommandLine
