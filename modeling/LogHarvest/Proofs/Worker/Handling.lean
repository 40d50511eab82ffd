import LogHarvest.Proofs.Batch.Runs
import LogHarvest.Proofs.Catalog.LastAccepted
import LogHarvest.Worker

/-!
# Workers and events

What a worker is made of once it has started (`start_eq_ok`), and what it does with an event: it
reads the messages and processes them as a batch (`handle_cases`). Events come one after
another, and what becomes of one does not keep the next from being handled.
-/

namespace LogHarvest.Worker

variable {σ : Type}

/-! ## Workers -/

/-- A worker that works with the services. -/
def make [Platform] (services : Services σ) (routing : Routing) (writer : ArchiveWriter)
    (cap : Option Int) : Pipeline σ :=
  ⟨routing, connectors services, writer, cap⟩

theorem find_connectors [Platform] (services : Services σ) (type : Text) :
    (connectors services).find type =
      if type = PageConnector.type then .ok (PageConnector.connector services)
      else .error (.unknownConnectorType type) := by
  by_cases h : type = PageConnector.type
  · rw [if_pos h, h]
    rfl
  · have h' : (type == PageConnector.type) = false := by simpa using h
    rw [if_neg h]
    simp [connectors, Registry.ofList, lastNamed, putNamed, Registry.find, List.lookup_cons, h']

theorem begin_make [Platform] (services : Services σ) (routing : Routing) (writer : ArchiveWriter)
    (cap : Option Int) (task : Task) :
    (make services routing writer cap).begin task =
      if task.route.type = PageConnector.type then
        (PageConnector.connector services).pull task.route
      else pure ⟨0, .error (.unknownConnectorType task.route.type)⟩ := by
  unfold Pipeline.begin
  rw [make, find_connectors]
  by_cases h : task.route.type = PageConnector.type
  · rw [if_pos h, if_pos h]
  · rw [if_neg h, if_neg h]

/-! ## Starting -/

/-- What a worker that has started was made from: the settings in the environment, the catalog in
the folder that they name, and the routes of the sources that they accept. -/
structure MadeFrom [Platform] (files : FileTree) (env : Environment) (settings : Settings)
    (sources : List LogSource) (routing : Routing) : Prop where
  settings_eq : Settings.ofEnvironment env = .ok settings
  sources_eq : ∃ lines lines', (Catalog.load files settings.sourcesFolder).runOn lines =
    (.ok sources, lines')
  routing_eq : ∃ lines lines',
    (Routing.ofCatalog sources settings.connectorTypes settings.secretArns).runOn lines =
      (.ok routing, lines')

theorem exists_of_ofNoted_eq_ok {α : Type} {noted : Noted α} {a : α} {s s' : Scene σ}
    (h : (Act.ofNoted noted).runOn s = (.ok a, s')) :
    ∃ lines lines', noted.runOn lines = (.ok a, lines') := by
  rw [Act.runOn_ofNoted] at h
  exact ⟨s.lines, _, Prod.ext (Prod.mk.inj h).1 rfl⟩

theorem eq_ok_of_liftM {α : Type} {e : Except Fault α} {a : α} {s s' : Scene σ}
    (h : (liftM e : Act σ α).runOn s = (.ok a, s')) : e = .ok a := by
  cases e with
  | ok b =>
    cases h
    rfl
  | error fault => cases h

/-- What a worker is made of where the settings are given. -/
theorem exists_of_start_eq_ok [Platform] {services : Services σ} {files : FileTree}
    {settings : Settings} {s s' : Scene σ} {p : Pipeline σ}
    (h : (start services files settings).runOn s = (.ok p, s')) :
    ∃ bucket sources routing, settings.bucket = some bucket ∧
      (∃ lines lines', (Catalog.load files settings.sourcesFolder).runOn lines =
        (.ok sources, lines')) ∧
      (∃ lines lines',
        (Routing.ofCatalog sources settings.connectorTypes settings.secretArns).runOn lines =
          (.ok routing, lines')) ∧
      p = make services routing (.ofBucket bucket) settings.cap := by
  unfold start at h
  cases hbucket : settings.bucket with
  | none =>
    rw [hbucket] at h
    cases h
  | some bucket =>
    rw [hbucket] at h
    obtain ⟨_, _, -, h⟩ := Act.exists_of_runOn_bind_eq_ok h
    obtain ⟨sources, _, hsources, h⟩ := Act.exists_of_runOn_bind_eq_ok h
    obtain ⟨routing, _, hrouting, h⟩ := Act.exists_of_runOn_bind_eq_ok h
    obtain ⟨_, _, -, h⟩ := Act.exists_of_runOn_bind_eq_ok h
    obtain ⟨_, _, -, h⟩ := Act.exists_of_runOn_bind_eq_ok h
    obtain ⟨_, _, -, h⟩ := Act.exists_of_runOn_bind_eq_ok h
    cases h
    exact ⟨bucket, sources, routing, rfl, exists_of_ofNoted_eq_ok hsources,
      exists_of_ofNoted_eq_ok hrouting, rfl⟩

theorem start_eq_ok [Platform] {services : Services σ} {files : FileTree} {env : Environment}
    {s s' : Scene σ} {p : Pipeline σ}
    (h : (startFrom services files env).runOn s = (.ok p, s')) :
    ∃ settings sources routing bucket, MadeFrom files env settings sources routing ∧
      p = make services routing (.ofBucket bucket) settings.cap := by
  obtain ⟨settings, _, hsettings, h⟩ := Act.exists_of_runOn_bind_eq_ok h
  obtain ⟨_, _, -, h⟩ := Act.exists_of_runOn_bind_eq_ok h
  obtain ⟨bucket, sources, routing, -, hsources, hrouting, rfl⟩ := exists_of_start_eq_ok h
  exact ⟨settings, sources, routing, bucket, ⟨eq_ok_of_liftM hsettings, hsources, hrouting⟩, rfl⟩

theorem exists_write_of_reportUnhandled (accepted handled : List Text) (s : Scene σ) :
    ∃ lines, (reportUnhandled accepted handled).runOn s = (.ok (), s.write lines) := by
  dsimp only [reportUnhandled]
  split
  · exact ⟨_, rfl⟩
  · exact ⟨[], by rw [Act.runOn_pure, Scene.write_nil]⟩

/-- A worker starts if there is a bucket and its catalog can be read. -/
theorem start_of_catalog [Platform] (services : Services σ) {files : FileTree} {settings : Settings}
    {bucket : Text} {sources : List LogSource} {lines : Array Line} {s : Scene σ}
    (hbucket : settings.bucket = some bucket)
    (hsources : (Catalog.load files settings.sourcesFolder).runOn s.lines = (.ok sources, lines)) :
    ∃ routing lines' s',
      (Routing.ofCatalog sources settings.connectorTypes settings.secretArns).runOn lines =
        (.ok routing, lines') ∧
      (start services files settings).runOn s =
        (.ok (make services routing (.ofBucket bucket) settings.cap), s') := by
  obtain ⟨routing, lines', hrouting, -⟩ :=
    Routing.ofCatalog_eq sources settings.connectorTypes settings.secretArns lines
  obtain ⟨s₁, hopen, hlines⟩ : ∃ s₁,
      (Act.ask (services.openClient .secrets settings.region)).runOn s = (.ok (), s₁) ∧
        s₁.lines = s.lines := ⟨_, rfl, rfl⟩
  have hload : (Act.ofNoted (Catalog.load files settings.sourcesFolder)).runOn s₁ =
      (.ok sources, { s₁ with lines := lines }) := by
    rw [Act.runOn_ofNoted, hlines, hsources]
  have hroute : (Act.ofNoted (Routing.ofCatalog sources settings.connectorTypes
      settings.secretArns)).runOn { s₁ with lines := lines } =
        (.ok routing, { s₁ with lines := lines' }) := by
    rw [Act.runOn_ofNoted, hrouting]
  obtain ⟨unhandled, hreport⟩ := exists_write_of_reportUnhandled settings.connectorTypes
    (connectors services).types { s₁ with lines := lines' }
  rw [start, hbucket]
  dsimp only
  rw [Act.runOn_bind_of_ok hopen, Act.runOn_bind_of_ok hload, Act.runOn_bind_of_ok hroute,
    Act.runOn_bind_of_ok hreport, Act.runOn_bind_of_ok (Act.runOn_note ..),
    Act.runOn_bind_of_ok (Act.runOn_ask ..)]
  exact ⟨routing, lines', _, hrouting, rfl⟩

/-- A worker starts if its settings and its catalog can be read. -/
theorem start_of_readable [Platform] (services : Services σ) {files : FileTree} {env : Environment}
    {settings : Settings} {bucket : Text} {sources : List LogSource} {lines : Array Line}
    {s : Scene σ} (hsettings : Settings.ofEnvironment env = .ok settings)
    (hlevel : (s.journal.choose settings.logLevel).2 = .ok ())
    (hbucket : settings.bucket = some bucket)
    (hsources : (Catalog.load files settings.sourcesFolder).runOn s.lines = (.ok sources, lines)) :
    ∃ routing lines' s',
      (Routing.ofCatalog sources settings.connectorTypes settings.secretArns).runOn lines =
        (.ok routing, lines') ∧
      (startFrom services files env).runOn s =
        (.ok (make services routing (.ofBucket bucket) settings.cap), s') := by
  have hchoose : (Act.chooseThreshold settings.logLevel).runOn s =
      (.ok (), { s with journal := (s.journal.choose settings.logLevel).1 }) := by
    rw [Act.runOn_chooseThreshold, hlevel]
  obtain ⟨routing, lines', s', hrouting, hs'⟩ := start_of_catalog services hbucket
    (s := { s with journal := (s.journal.choose settings.logLevel).1 }) hsources
  refine ⟨routing, lines', s', hrouting, ?_⟩
  rw [startFrom, hsettings, Act.runOn_bind_of_ok (Act.runOn_liftM_ok ..),
    Act.runOn_bind_of_ok hchoose, hs']

/-- Starting opens clients, writes lines and sets up the journal, and nothing else. -/
theorem start_leads [Platform] (services : Services σ) {I : Scene σ → Prop}
    (hlines : ∀ s lines, I s → I { s with lines := lines })
    (hjournal : ∀ s journal, I s → I { s with journal := journal })
    (hopen : ∀ s service region, I s →
      I { s with outside := ((services.openClient service region).run s.outside).2 })
    (files : FileTree) (env : Environment) :
    Act.Leads I (startFrom services files env) (fun _ => I) I := by
  have hnoted : ∀ {α : Type} (noted : Noted α),
      Act.Leads I (Act.ofNoted noted) (fun _ => I) I := by
    intro α noted s hs
    rw [Act.runOn_ofNoted]
    exact ⟨fun _ _ => hlines s _ hs, fun _ _ => hlines s _ hs⟩
  have hnote : ∀ level topic text, Act.Leads I (Act.note level topic text) (fun _ => I) I :=
    fun level topic text => .write fun s hs => hlines s _ hs
  have hask : ∀ service region,
      Act.Leads I (Act.ask (services.openClient service region)) (fun _ => I) I :=
    fun service region => .ask fun s hs => hopen s service region hs
  refine .bind (J := fun _ => I) (.liftExcept (fun _ _ _ hs => hs) fun _ hs => hs)
    fun settings => ?_
  refine .bind (J := fun _ => I) ?_ fun _ => ?_
  · intro s hs
    rw [Act.runOn_chooseThreshold]
    exact ⟨fun _ _ => hjournal s _ hs, fun _ _ => hjournal s _ hs⟩
  · unfold start
    cases settings.bucket with
    | none => exact .throw fun _ hs => hs
    | some bucket =>
      refine .bind (hask _ _) fun _ => .bind (hnoted _) fun sources => .bind (hnoted _)
        fun routing => .bind (J := fun _ => I) ?_ fun _ => .bind (hnote _ _ _) fun _ =>
        .bind (hask _ _) fun _ => .pure fun _ hs => hs
      dsimp only [reportUnhandled]
      split
      · exact hnote _ _ _
      · exact .pure fun _ hs => hs

/-! ## Events -/

/-- The line that is written first. -/
def starting : Line := ⟨.info, .worker, Text.ofString "Starting...."⟩

theorem runOn_handle [Platform] {p : Pipeline σ} {services : Services σ} {event : Json}
    {messages : List Message} (h : messagesOf event = .ok messages) (scene : Scene σ) :
    (handle p services event).runOn scene =
      (p.process services messages).runOn (scene.write [starting]) := by
  rw [handle, Act.runOn_bind_of_ok (Act.runOn_note ..), h,
    Act.runOn_bind_of_ok (Act.runOn_liftM_ok ..)]
  rfl

/-- An event that comes to a result has messages, and the result is that of their batch. -/
theorem handle_eq_ok [Platform] {p : Pipeline σ} {services : Services σ} {event : Json}
    {s s' : Scene σ} {result : BatchResult}
    (h : (handle p services event).runOn s = (.ok result, s')) :
    ∃ messages, messagesOf event = .ok messages ∧
      (p.process services messages).runOn (s.write [starting]) = (.ok result, s') := by
  cases hmessages : messagesOf event with
  | error fault =>
    rw [handle, Act.runOn_bind_of_ok (Act.runOn_note ..), hmessages,
      Act.runOn_bind_of_error (Act.runOn_liftM_error ..)] at h
    cases h
  | ok messages =>
    rw [runOn_handle hmessages] at h
    exact ⟨messages, rfl, h⟩

/-- The batch of an event is dispatched with these verdicts and permits. -/
structure Dispatches [Json.Limits] (p : Pipeline σ) (event : Json) (messages : List Message)
    (verdicts : List Verdict) (free : Option Nat) : Prop where
  messages_eq : messagesOf event = .ok messages
  judged : Verdict.Judged p.routing messages verdicts
  permits_eq : Pipeline.permits (verdicts.filterMap Verdict.task?) p.cap = .ok free

/-- The scene in which the batch is dispatched. -/
def dispatched (verdicts : List Verdict) (scene : Scene σ) : Scene σ :=
  (scene.write [starting]).write (Pipeline.opening verdicts)

/-- An event only has lines written, or its batch is dispatched and run. -/
theorem handle_cases [Platform] (p : Pipeline σ) (services : Services σ) (event : Json)
    (scene : Scene σ) :
    (∃ lines, ((handle p services event).runOn scene).2 = scene.write lines) ∨
      ∃ messages verdicts free lines, Dispatches p event messages verdicts free ∧
        ((handle p services event).runOn scene).2 =
          ((p.run services (Pipeline.dispatch verdicts free)).run
            (dispatched verdicts scene)).2.write lines := by
  cases hmessages : messagesOf event with
  | error fault =>
    rw [handle, Act.runOn_bind_of_ok (Act.runOn_note ..), hmessages,
      Act.runOn_bind_of_error (Act.runOn_liftM_error ..)]
    exact Or.inl ⟨_, rfl⟩
  | ok messages =>
    rw [runOn_handle hmessages]
    rcases p.givesUp_or_dispatched messages with
      ⟨fault, lines, hgives⟩ | ⟨verdicts, free, hjudged, hfree⟩
    · rw [p.process_of_givesUp services hgives, Scene.write_write]
      exact Or.inl ⟨_, rfl⟩
    · rcases hrun : (p.run services (Pipeline.dispatch verdicts free)).run
        (dispatched verdicts scene) with ⟨floor, after⟩
      have hdispatches : Dispatches p event messages verdicts free := ⟨hmessages, hjudged, hfree⟩
      cases ho : floor.order? with
      | none =>
        rw [p.process_of_judged services hjudged hfree hrun ho]
        exact Or.inr ⟨messages, verdicts, free, _, hdispatches, by rw [hrun]⟩
      | some order =>
        rw [p.process_of_order services hjudged hfree hrun ho]
        exact Or.inr ⟨messages, verdicts, free, [], hdispatches, by rw [hrun, Scene.write_nil]⟩

/-- Handles events one after another, whatever comes of each. -/
def serve [Platform] (p : Pipeline σ) (services : Services σ) : List Json → Scene σ → Scene σ
  | [], scene => scene
  | event :: rest, scene => serve p services rest ((handle p services event).runOn scene).2

end LogHarvest.Worker
