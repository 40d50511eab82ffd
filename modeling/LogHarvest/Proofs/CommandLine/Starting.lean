import LogHarvest.Proofs.Catalog.Startup
import LogHarvest.Proofs.CommandLine.Sessions
import LogHarvest.Proofs.Shelf
import LogHarvest.Proofs.Worker.Handling
import Mathlib

/-!
# Commands that cannot start

`sources` and `process` read the settings and the catalog before anything else. What this start
announces as unusable they print, and end with exit code 1; what is not announced escapes from
them.
-/

namespace LogHarvest.CommandLine

open Session

variable {σ : Type}

/-! ## The start of a command -/

/-- What comes of a command that meets a fault before it can start: it is refused if the fault
forbids to start, and else the fault escapes. -/
def stopped {α : Type} (preface : String) (fault : Fault) (scene : Scene σ) :
    Except Fault (Except Nat α) × Scene σ :=
  if forbidsStart fault = true then refused (Text.ofString preface ++ fault.message) scene
  else (.error fault, scene)

theorem runOn_bind_of_stopped {α β : Type} {session : Session σ α} {preface : String}
    {fault : Fault} {scene scene' : Scene σ}
    (h : session.runOn scene = stopped preface fault scene') (next : α → Session σ β) :
    (session >>= next).runOn scene = stopped preface fault scene' := by
  unfold stopped at h ⊢
  by_cases hfault : forbidsStart fault = true
  · rw [if_pos hfault] at h ⊢
    exact runOn_bind_of_refused h next
  · rw [if_neg hfault] at h ⊢
    exact runOn_bind_of_fault h next

theorem runOn_orRefuse_of_error {α : Type} {preface : String} {act : Act σ α}
    {scene scene' : Scene σ} {fault : Fault} (h : act.runOn scene = (.error fault, scene')) :
    (orRefuse preface act).runOn scene = stopped preface fault scene' := by
  rw [runOn_orRefuse, h]
  rfl

theorem eq_unknownLevel_of_choose {setup journal : JournalSetup} {name : Text} {fault : Fault}
    (h : setup.choose name = (journal, .error fault)) : fault = .unknownLevel name := by
  unfold JournalSetup.choose Threshold.ofName at h
  dsimp only at h
  split at h
  · cases h
  · next fault' hfault' =>
    split at hfault'
    · cases hfault'
    · cases hfault'
      exact (Except.error.inj (Prod.mk.inj h).2).symm

theorem choose_of_ofName {name : Text} {threshold : Threshold}
    (h : Threshold.ofName name = .ok threshold) (setup : JournalSetup) :
    (setup.choose name).2 = .ok () := by
  unfold JournalSetup.choose
  rw [h]

section Commands

variable [Platform]

theorem runOn_settingsOf_of_fault {env : Environment} {fault : Fault}
    (h : Settings.ofEnvironment env = .error fault) (scene : Scene σ) :
    (settingsOf env none : Session σ Settings).runOn scene = stopped "" fault scene := by
  have hact : (liftM (Settings.ofEnvironment env) : Act σ Settings).runOn scene =
      (.error fault, scene) := by
    rw [h]
    rfl
  exact runOn_bind_of_stopped (runOn_orRefuse_of_error hact) _

/-- Settings that can be read set up the journal. -/
theorem runOn_settingsOf_of_settings {env : Environment} {settings : Settings}
    (h : Settings.ofEnvironment env = .ok settings) (scene : Scene σ) :
    (settingsOf env none : Session σ Settings).runOn scene =
      ((scene.journal.choose settings.logLevel).2.map fun _ => .ok settings,
        { scene with journal := (scene.journal.choose settings.logLevel).1 }) := by
  have hact : (liftM (Settings.ofEnvironment env) : Act σ Settings).runOn scene =
      (.ok settings, scene) := by
    rw [h]
    rfl
  have hchoose := Act.runOn_chooseThreshold settings.logLevel scene
  rw [settingsOf, runOn_bind_of_ok (runOn_orRefuse_of_ok hact), Session.runOn_bind, runOn_liftM,
    hchoose]
  rcases (scene.journal.choose settings.logLevel).2 with fault | _ <;> rfl

/-- A command makes its worker like any other program. -/
theorem runOn_ready (services : Services σ) (files : FileTree) (env : Environment)
    (scene : Scene σ) :
    (∃ p s', (Worker.startFrom services files env).runOn scene = (.ok p, s') ∧
        (settingsOf env none >>= workerOf services files).runOn scene = (.ok (.ok p), s')) ∨
      ∃ fault s' preface, (Worker.startFrom services files env).runOn scene = (.error fault, s') ∧
        (settingsOf env none >>= workerOf services files).runOn scene =
          stopped preface fault s' := by
  unfold Worker.startFrom
  cases hsettings : Settings.ofEnvironment env with
  | error fault =>
    refine .inr ⟨fault, scene, "", rfl, ?_⟩
    exact runOn_bind_of_stopped (runOn_settingsOf_of_fault hsettings scene) _
  | ok settings =>
    have hready := runOn_settingsOf_of_settings hsettings scene
    rw [Act.runOn_bind_of_ok (Act.runOn_liftM_ok ..), Act.runOn_bind, Act.runOn_chooseThreshold]
    rcases hchoose : scene.journal.choose settings.logLevel with ⟨journal, fault | _⟩
    · -- a level that the journal does not know escapes from both
      rw [hchoose] at hready
      have hfault : forbidsStart fault = false := by
        rw [eq_unknownLevel_of_choose hchoose]
        rfl
      refine .inr ⟨fault, _, "", rfl, ?_⟩
      rw [runOn_bind_of_fault hready]
      exact (if_neg (Bool.eq_false_iff.mp hfault)).symm
    · rw [hchoose] at hready
      rw [runOn_bind_of_ok hready]
      dsimp only
      rcases hstart : (Worker.start services files settings).runOn
        { scene with journal := journal } with ⟨fault | p, s'⟩
      · exact .inr ⟨fault, s', _, rfl, runOn_orRefuse_of_error hstart⟩
      · exact .inl ⟨p, s', rfl, runOn_orRefuse_of_ok hstart⟩

/-! ## Where the start goes wrong -/

/-- The settings, if there are any, name a level that the journal knows. -/
def KnowsLevel (env : Environment) : Prop :=
  ∀ settings, Settings.ofEnvironment env = .ok settings →
    ∃ threshold, Threshold.ofName settings.logLevel = .ok threshold

section Faults

variable {files : FileTree} {env : Environment} {fault : Fault} {scene : Scene σ}

theorem runOn_load_of_fault {path : Text} {s : Scene σ} (hlines : s.lines = scene.lines)
    (hload : ((Catalog.load files path).runOn scene.lines).1 = .error fault) :
    ∃ s', s'.printed = s.printed ∧ s'.outside = s.outside ∧
      (Act.ofNoted (Catalog.load files path)).runOn s = (.error fault, s') := by
  refine ⟨{ s with lines := ((Catalog.load files path).runOn s.lines).2 }, rfl, rfl, ?_⟩
  rw [Act.runOn_ofNoted, hlines, hload]

/-- What goes wrong at the start stops the list of sources. -/
theorem runOn_listSources_of_fault (scene : Scene σ) (hlevel : KnowsLevel env)
    (h : ((startUp files env).runOn scene.lines).1 = .error fault) :
    ∃ s', s'.printed = scene.printed ∧ s'.outside = scene.outside ∧
      (listSources files env none).runOn scene = stopped "" fault s' := by
  rw [listSources]
  rcases startUp_eq_error_iff.mp h with hsettings | ⟨settings, hsettings, hload⟩
  · exact ⟨scene, rfl, rfl, runOn_bind_of_stopped (runOn_settingsOf_of_fault hsettings scene) _⟩
  · obtain ⟨threshold, hthreshold⟩ := hlevel settings hsettings
    have hready := runOn_settingsOf_of_settings hsettings scene
    rw [choose_of_ofName hthreshold] at hready
    obtain ⟨s', hprinted, houtside, hact⟩ := runOn_load_of_fault
      (s := { scene with journal := (scene.journal.choose settings.logLevel).1 }) rfl hload
    rw [runOn_bind_of_ok hready]
    exact ⟨s', hprinted, houtside, runOn_bind_of_stopped (runOn_orRefuse_of_error hact) _⟩

/-- What goes wrong at the start keeps a worker from starting, unless the bucket is missing, which
is looked at before the catalog. -/
theorem startFrom_of_fault (services : Services σ) (hlevel : KnowsLevel env)
    (h : ((startUp files env).runOn scene.lines).1 = .error fault) :
    ∃ fault' s', (Worker.startFrom services files env).runOn scene = (.error fault', s') ∧
      (fault' = fault ∨ fault' = .catalog (.notSet (Text.ofString "INGESTION_BUCKET_NAME"))) := by
  rw [Worker.startFrom]
  rcases startUp_eq_error_iff.mp h with hsettings | ⟨settings, hsettings, hload⟩
  · rw [hsettings]
    exact ⟨fault, scene, rfl, .inl rfl⟩
  · obtain ⟨threshold, hthreshold⟩ := hlevel settings hsettings
    have hchoose := Act.runOn_chooseThreshold settings.logLevel scene
    rw [choose_of_ofName hthreshold] at hchoose
    rw [hsettings, Act.runOn_bind_of_ok (Act.runOn_liftM_ok ..), Act.runOn_bind_of_ok hchoose,
      Worker.start]
    cases settings.bucket with
    | none => exact ⟨_, _, rfl, .inr rfl⟩
    | some bucket =>
      obtain ⟨s₁, hopen, hlines⟩ : ∃ s₁,
          (Act.ask (services.openClient .secrets settings.region)).runOn
              { scene with journal := (scene.journal.choose settings.logLevel).1 } = (.ok (), s₁) ∧
            s₁.lines = scene.lines := ⟨_, rfl, rfl⟩
      obtain ⟨s', -, -, hact⟩ := runOn_load_of_fault hlines hload
      dsimp only
      rw [Act.runOn_bind_of_ok hopen, Act.runOn_bind_of_error hact]
      exact ⟨fault, s', rfl, .inl rfl⟩

end Faults

/-! ## Commands -/

/-- There is a file at the path, and it holds the event. -/
def HoldsEvent (files : FileTree) (path : Text) (event : Json) : Prop :=
  ∃ content, files.find? path = some (.file content) ∧ eventOf content = .ok event

theorem runOn_readEvent {files : FileTree} {path : Text} {event : Json}
    (h : HoldsEvent files path event) (scene : Scene σ) :
    (readEvent files path).runOn scene = (.ok (.ok event), scene) := by
  obtain ⟨content, hfile, hevent⟩ := h
  have hread : files.read path >>= eventOf = .ok event := by
    rw [FileTree.read, hfile]
    exact hevent
  rw [readEvent, hfile, hread]
  rfl

/-- What is done with an event once there is a worker for it. -/
def processWith (services : Services σ) (worker : Pipeline σ) (event : Json) :
    Session σ Unit := do
  let result ← liftM (Worker.handle worker services event)
  liftM (Act.print (Worker.response result).print : Act σ Unit)
  if result.report.isSome then leave 2

/-- The event is read first, then the worker is made. -/
theorem runOn_processEvent {files : FileTree} {path : Text} {event : Json}
    (h : HoldsEvent files path event) (services : Services σ) (env : Environment)
    (scene : Scene σ) :
    (processEvent services files env path none).runOn scene =
      ((settingsOf env none >>= workerOf services files) >>= fun worker =>
        processWith services worker event).runOn scene := by
  rw [processEvent, runOn_bind_of_ok (runOn_readEvent h scene), bind_assoc]
  rfl

/-- Where no worker starts, `process` is stopped. -/
theorem runOn_process_of_unstarted {services : Services σ} {files : FileTree} {env : Environment}
    {path : Text} {event : Json} {fault : Fault} {scene failed : Scene σ}
    (hevent : HoldsEvent files path event)
    (hstart : (Worker.startFrom services files env).runOn scene = (.error fault, failed))
    (n : Nat) :
    ∃ preface, (runCommand services files env n (.process path none)).runOn scene =
      stopped preface fault failed := by
  rcases runOn_ready services files env scene with ⟨p, s', hok, -⟩ |
    ⟨fault', s', preface, herror, hready⟩
  · cases hstart.symm.trans hok
  · cases hstart.symm.trans herror
    refine ⟨preface, ?_⟩
    rw [runCommand, runOn_processEvent hevent]
    exact runOn_bind_of_stopped hready _

theorem runOn_run_of_stopped {arguments : List Text} {command : Command} {services : Services σ}
    {files : FileTree} {env : Environment} {n : Nat} {scene s' : Scene σ} {preface : String}
    {fault : Fault} (hcommand : Platform.arguments arguments = .ok command)
    (h : (runCommand services files env n command).runOn scene = stopped preface fault s') :
    (forbidsStart fault = true → fault.message.IsPlain →
        (run services files env n arguments).runOn scene =
          (.ok 1, s'.printing (Text.ofString preface ++ fault.message))) ∧
      (forbidsStart fault = false →
        (run services files env n arguments).runOn scene = (.error fault, s')) := by
  rw [runOn_run hcommand, h]
  constructor
  · intro hfault hplain
    have hreason : (Text.ofString preface ++ fault.message).IsPlain :=
      Text.isPlain_append.mpr ⟨Text.isPlain_ofString preface, hplain⟩
    rw [stopped, if_pos hfault, refused, if_pos hreason]
    rfl
  · intro hfault
    rw [stopped, if_neg (Bool.eq_false_iff.mp hfault)]
    rfl

/--
**A start that goes wrong is announced, but for three sorts of input.**

Reading the settings and then the catalog in the folder that they name gives both, or a fault that
forbids to start, exactly if nothing of the following is the case: one of the two variables with
JSON in them goes beyond the limits of the reader, and the one before it is in order; the folder is
a plain file, or cannot be listed; on the first declaration that cannot be used the YAML reader
fails with a fault that is none of the document.

If the journal knows the level, commands follow. A fault that forbids to start is printed, and
`sources` and `process` end with exit code 1; any other fault escapes from `sources`.
-/
theorem start_announced_unless_escaping (files : FileTree) (env : Environment) :
    (∀ lines, IsAnnounced ((startUp files env).runOn lines).1 ↔ ¬ StartEscapes files env) ∧
      ∀ {σ : Type} (services : Services σ) (n : Nat) (scene : Scene σ) (fault : Fault),
        KnowsLevel env → ((startUp files env).runOn scene.lines).1 = .error fault →
        (forbidsStart fault = true → fault.message.IsPlain →
          (∀ arguments, Platform.arguments arguments = .ok (.sources none) →
            ∃ s', (run services files env n arguments).runOn scene = (.ok 1, s') ∧
              s'.printed = (scene.printing fault.message).printed ∧ s'.outside = scene.outside) ∧
          ∀ arguments path event, Platform.arguments arguments = .ok (.process path none) →
            HoldsEvent files path event →
            ((run services files env n arguments).runOn scene).1 = .ok 1) ∧
        (forbidsStart fault = false →
          ∀ arguments, Platform.arguments arguments = .ok (.sources none) →
            ((run services files env n arguments).runOn scene).1 = .error fault) := by
  refine ⟨isAnnounced_startUp_iff files env, ?_⟩
  intro σ services n scene fault hlevel hfault
  obtain ⟨s', hprinted, houtside, hstopped⟩ := runOn_listSources_of_fault scene hlevel hfault
  have hsourcesRun : (runCommand services files env n (.sources none)).runOn scene =
      stopped "" fault s' := hstopped
  refine ⟨fun hforbids hplain => ⟨?_, ?_⟩, ?_⟩
  · intro arguments hsources
    obtain ⟨hrefused, -⟩ := runOn_run_of_stopped hsources hsourcesRun
    refine ⟨_, hrefused hforbids hplain, ?_, houtside⟩
    show s'.printed ++ (Text.ofString "" ++ fault.message) ++ _ = _
    rw [hprinted]
    rfl
  · intro arguments path event hprocess hevent
    obtain ⟨fault', s₁, hstart, hcause⟩ := startFrom_of_fault services hlevel hfault
    obtain ⟨preface, hrun⟩ := runOn_process_of_unstarted hevent hstart n
    obtain ⟨hrefused', -⟩ := runOn_run_of_stopped hprocess hrun
    rcases hcause with rfl | rfl
    · rw [hrefused' hforbids hplain]
    · rw [hrefused' rfl (Text.isPlain_append.mpr
        ⟨Text.isPlain_ofString _, Text.isPlain_ofString _⟩)]
  · intro hforbids arguments hsources
    obtain ⟨-, hescaped⟩ := runOn_run_of_stopped hsources hsourcesRun
    rw [hescaped hforbids]

end Commands

attribute [local instance] Platform.builtIn

/-- With nothing set both commands end with exit code 1. -/
theorem nothing_set_is_refused :
    ¬ StartEscapes (.folder [("e", .file [0x7b, 0x7d])]) [] ∧
      ∃ s', (run Shelf.services (.folder [("e", .file [0x7b, 0x7d])]) [] 0 ["sources"]).runOn
          (.start (.empty [])) = (.ok 1, s') ∧
        s'.printed = Text.ofString "PULLER_LOG_SOURCE_TYPES must be set.\n" ∧
        ((run Shelf.services (.folder [("e", .file [0x7b, 0x7d])]) [] 0 ["process", "e"]).runOn
          (.start (.empty []))).1 = .ok 1 := by
  have hevent : eventOf [0x7b, 0x7d] = .ok (.object []) := by cbv
  have hlevel : KnowsLevel [] := fun settings h => (by cases h)
  obtain ⟨hannounced, hcommands⟩ :=
    start_announced_unless_escaping (.folder [("e", .file [0x7b, 0x7d])]) []
  obtain ⟨hsources, hprocess⟩ := (hcommands Shelf.services 0 (.start (.empty []))
    (.catalog (.notSet (Text.ofString "PULLER_LOG_SOURCE_TYPES"))) hlevel rfl).1 rfl (by decide)
  obtain ⟨s', hrun, hprinted, -⟩ := hsources ["sources"] (by decide)
  refine ⟨(hannounced #[]).mp ?_, s', hrun, hprinted, ?_⟩
  · exact isAnnounced_catalog _
  · exact hprocess ["process", "e"] "e" (.object []) (by decide) ⟨_, rfl, hevent⟩

/-! ### A date that is none -/

/-- A catalog of one source with this declaration. -/
def declaring (declaration : Text) : FileTree :=
  .folder [("c", .folder [("a", .folder [(Catalog.configFile, .file
    (declaration.map fun s => UInt8.ofNat s.code))])])]

/-- A declaration with a date in the thirteenth month. -/
def misdated : Text := Text.ofString "name: a\nsince: 2024-13-45\n"

/-- The fault of a month that does not exist. -/
def monthFault : DocumentFault := ⟨false, "ValueError", "month must be in 1..12"⟩

/-- Whether this is the fault of a month that does not exist. -/
def isMonthFault : Except Fault Value → Bool
  | .error (.document fault) => fault = monthFault
  | _ => false

theorem eq_of_isMonthFault {r : Except Fault Value} (h : isMonthFault r = true) :
    r = .error (.document monthFault) := by
  unfold isMonthFault at h
  split at h
  · rw [of_decide_eq_true h]
  · cases h

/-- A date that is none is not announced: the fault of its month escapes. -/
theorem misdated_declaration_escapes :
    ∃ fault, ((startUp (declaring misdated) Counter.environment).runOn #[]).1 = .error fault ∧
      fault.kind = Text.ofString "ValueError" ∧ forbidsStart fault = false ∧
      ∀ n, ((run (Counter.services id) (declaring misdated) Counter.environment n
        ["sources"]).runOn (.start ())).1 = .error fault := by
  have hread : Catalog.readFolder (declaring misdated) (FileTree.join "/c" "a") =
      .error (.document monthFault) := eq_of_isMonthFault (by decide +kernel)
  have hfolder : Catalog.LeadsToFolder (declaring misdated) (FileTree.join "/c" "a") := by
    decide +kernel
  have hnames : FileTree.names (.folder [("a", .folder [(Catalog.configFile, .file
      (misdated.map fun s => UInt8.ofNat s.code))])]) = [] ++ (Text.ofString "a") :: [] := by cbv
  have hload : ((Catalog.load (declaring misdated) "/c").runOn #[]).1 =
      .error (.document monthFault) := by
    rw [Catalog.load_of_folder rfl, hnames]
    exact Catalog.runOn_loadFolders_of_first (fun _ h => (by cases h)) hfolder hread [] #[]
  have hsettings : Settings.ofEnvironment Counter.environment = .ok Counter.settings := by cbv
  have hfault : ((startUp (declaring misdated) Counter.environment).runOn #[]).1 =
      .error (.document monthFault) :=
    startUp_eq_error_iff.mpr (.inr ⟨Counter.settings, hsettings, hload⟩)
  have hlevel : KnowsLevel Counter.environment := by
    intro settings h
    cases hsettings.symm.trans h
    exact ⟨.info, by cbv⟩
  refine ⟨_, hfault, rfl, rfl, fun n => ?_⟩
  have hsources : Platform.arguments [Text.ofString "sources"] = .ok (.sources none) := by decide
  obtain ⟨s', -, -, hstopped⟩ := runOn_listSources_of_fault (.start ()) hlevel hfault
  have hrun : (runCommand (Counter.services id) (declaring misdated) Counter.environment n
      (.sources none)).runOn (.start ()) = stopped "" (.document monthFault) s' := hstopped
  rw [(runOn_run_of_stopped hsources hrun).2 rfl]

end LogHarvest.CommandLine
