import LogHarvest.Proofs.Batch.Late
import LogHarvest.Proofs.CommandLine.Starting
import LogHarvest.Proofs.Worker.Making

/-!
# The list of sources

`sources` and `process` read the settings and the catalog each for itself, and `sources` tells by
comparing names which of the sources it skips. `listing_tells_what_is_accepted` says that the list
can be trusted: a worker for the same environment and files refuses a source as unknown exactly if
it is not listed, and every name of the catalog is either listed or skipped.
-/

namespace LogHarvest

variable {σ α β : Type}

/-! ## Printing line by line -/

/-- The lines as they are printed, each with its end. -/
def Text.endLines (lines : List Text) : Text := lines.flatMap fun line => line ++ [.char '\n']

/-- What comes of a command that prints these lines: they are all printed, or those before the first
one that cannot be. -/
structure Prints (lines : List Text) (scene : Scene σ) (r : Except Fault Nat) (after : Scene σ) :
    Prop where
  all : (∀ line ∈ lines, line.IsPlain) →
    r = .ok 0 ∧ after.printed = scene.printed ++ Text.endLines lines
  upTo : ∀ earlier line later, lines = earlier ++ line :: later →
    (∀ line ∈ earlier, line.IsPlain) → ¬ line.IsPlain →
    r = .error (.unencodable line) ∧ after.printed = scene.printed ++ Text.endLines earlier

namespace Act

/-- Prints lines one after another. -/
def printLines (lines : List Text) : Act σ Unit := forM lines Act.print

theorem printLines_append (first second : List Text) :
    (printLines (first ++ second) : Act σ Unit) = printLines first >>= fun _ => printLines second :=
  List.forM_append ..

theorem printLines_cons (line : Text) (rest : List Text) :
    (printLines (line :: rest) : Act σ Unit) = print line >>= fun _ => printLines rest :=
  List.forM_cons ..

theorem printLines_singleton (line : Text) :
    (printLines [line] : Act σ Unit) = print line :=
  (printLines_cons line []).trans (bind_pure_unit ..)

theorem runOn_printLines_of_plain {lines : List Text} (h : ∀ line ∈ lines, line.IsPlain)
    (scene : Scene σ) : (printLines lines).runOn scene =
      (.ok (), { scene with printed := scene.printed ++ Text.endLines lines }) := by
  induction lines generalizing scene with
  | nil => simp [printLines, Text.endLines]
  | cons line rest ih =>
    obtain ⟨hline, hrest⟩ := List.forall_mem_cons.mp h
    rw [printLines_cons, runOn_bind_of_ok (runOn_print_of_plain hline scene), ih hrest]
    simp [Scene.printing, Text.endLines]

theorem runOn_printLines_of_not_plain {earlier later : List Text} {line : Text}
    (h : ∀ line ∈ earlier, line.IsPlain) (hline : ¬ line.IsPlain) (scene : Scene σ) :
    (printLines (earlier ++ line :: later)).runOn scene =
      (.error (.unencodable line),
        { scene with printed := scene.printed ++ Text.endLines earlier }) := by
  rw [printLines_append, runOn_bind_of_ok (runOn_printLines_of_plain h scene), printLines_cons,
    runOn_bind_of_error (runOn_print_of_not_plain hline _)]

end Act

/-! ## What must have happened -/

namespace CommandLine

open Session

namespace Session

theorem exists_of_runOn_bind_eq_ok {session : Session σ α} {next : α → Session σ β}
    {scene scene'' : Scene σ} {b : β}
    (h : (session >>= next).runOn scene = (.ok (.ok b), scene'')) :
    ∃ a scene', session.runOn scene = (.ok (.ok a), scene') ∧
      (next a).runOn scene' = (.ok (.ok b), scene'') := by
  rw [runOn_bind] at h
  rcases hr : session.runOn scene with ⟨fault | code | a, scene'⟩ <;> rw [hr] at h
  · cases h
  · cases h
  · exact ⟨a, scene', rfl, h⟩

theorem runOn_of_liftM_eq_ok {act : Act σ α} {scene scene' : Scene σ} {a : α}
    (h : (liftM act : Session σ α).runOn scene = (.ok (.ok a), scene')) :
    act.runOn scene = (.ok a, scene') := by
  rw [runOn_liftM] at h
  rcases hr : act.runOn scene with ⟨fault | a', after⟩ <;> rw [hr] at h <;> cases h
  rfl

end Session

theorem runOn_of_orRefuse_eq_ok {preface : String} {act : Act σ α} {scene scene' : Scene σ} {a : α}
    (h : (orRefuse preface act).runOn scene = (.ok (.ok a), scene')) :
    act.runOn scene = (.ok a, scene') := by
  rw [runOn_orRefuse] at h
  rcases hr : act.runOn scene with ⟨fault | a', after⟩ <;> rw [hr] at h
  · unfold refused at h
    dsimp only at h
    split at h
    · split at h <;> cases h
    · cases h
  · cases h
    rfl

/-! ## What is listed and what is skipped -/

theorem mem_skippedNames {sources : List LogSource} {routing : Routing} {name : Text} :
    name ∈ skippedNames sources routing ↔
      (∃ source ∈ sources, source.name = name) ∧ name ∉ routing.names := by
  simp [skippedNames, Text.mem_sortDistinct]

/-- A source that has a route is in the catalog. -/
theorem exists_source_of_mem_names {sources : List LogSource} {routing : Routing}
    {types : List Text} {arns : List (Text × Text)}
    (hsettled : ∀ name, Routing.Settled types arns sources [] routing.routes name) {name : Text}
    (hname : name ∈ routing.names) : ∃ source ∈ sources, source.name = name := by
  rw [Routing.mem_names_iff] at hname
  rcases hsettled name with ⟨source, arn, hsource, ⟨before, after, rfl, -⟩, -⟩ | ⟨-, hnone⟩
  · exact ⟨source, by simp, hsource⟩
  · rw [Routing.find?, hnone] at hname
    cases hname

/-! ## Settings of a command -/

section Settings

variable [Platform]

/-- Settings of a command are those of the environment, with the folder put in. -/
theorem exists_of_settingsOf_eq_ok {env : Environment} {folder : Option Text}
    {settings : Settings} {scene scene' : Scene σ}
    (h : (settingsOf env folder : Session σ Settings).runOn scene = (.ok (.ok settings), scene')) :
    ∃ own threshold, Settings.ofEnvironment env = .ok own ∧
      Threshold.ofName own.logLevel = .ok threshold ∧ settings = withFolder own folder := by
  obtain ⟨own, _, hown, h⟩ := exists_of_runOn_bind_eq_ok h
  obtain ⟨_, _, hlevel, h⟩ := exists_of_runOn_bind_eq_ok h
  cases h
  have hchoose := runOn_of_liftM_eq_ok hlevel
  rw [Act.runOn_chooseThreshold] at hchoose
  cases hthreshold : Threshold.ofName own.logLevel with
  | ok threshold =>
    exact ⟨own, threshold, Worker.eq_ok_of_liftM (runOn_of_orRefuse_eq_ok hown), hthreshold, rfl⟩
  | error fault =>
    rw [JournalSetup.choose, hthreshold] at hchoose
    cases (Prod.mk.inj hchoose).1

/-- Settings that can be read, with a level that the journal knows, set up the journal and leave
everything else. -/
theorem runOn_settingsOf {env : Environment} {own : Settings} {threshold : Threshold}
    (hown : Settings.ofEnvironment env = .ok own)
    (hlevel : Threshold.ofName own.logLevel = .ok threshold) (folder : Option Text)
    (scene : Scene σ) :
    (settingsOf env folder : Session σ Settings).runOn scene =
      (.ok (.ok (withFolder own folder)),
        { scene with journal := (scene.journal.choose own.logLevel).1 }) := by
  have hact : (liftM (Settings.ofEnvironment env) : Act σ Settings).runOn scene =
      (.ok own, scene) := by
    rw [hown]
    rfl
  have hchoose := Act.runOn_chooseThreshold own.logLevel scene
  rw [choose_of_ofName hlevel] at hchoose
  rw [settingsOf, runOn_bind_of_ok (runOn_orRefuse_of_ok hact),
    runOn_bind_of_ok (runOn_liftM_of_ok hchoose)]
  rfl

/-! ## The list -/

/-- The lines of the list: one for each source that is pulled, and one for all the others. -/
def listing (routing : Routing) (listed skipped : List Text) : List Text :=
  listed.map (sourceLine routing) ++
    if skipped = [] then []
    else [Text.ofString "skipped: " ++ Text.join (Text.ofString ", ") skipped]

/-- Once the catalog and the routes are known, `sources` prints the lines of its list. -/
theorem runOn_listSources {files : FileTree} {env : Environment} {own : Settings}
    {threshold : Threshold} {folder : Option Text} {sources : List LogSource} {routing : Routing}
    (hown : Settings.ofEnvironment env = .ok own)
    (hlevel : Threshold.ofName own.logLevel = .ok threshold)
    (hload : ∀ lines, ((Catalog.load files (withFolder own folder).sourcesFolder).runOn lines).1 =
      .ok sources)
    (hroutes : ∀ lines, ((Routing.ofCatalog sources (withFolder own folder).connectorTypes
      (withFolder own folder).secretArns).runOn lines).1 = .ok routing) (scene : Scene σ) :
    ∃ ready : Scene σ, ready.printed = scene.printed ∧
      (listSources files env folder).runOn scene =
        (liftM (Act.printLines (σ := σ)
          (listing routing routing.names (skippedNames sources routing))) :
          Session σ Unit).runOn ready := by
  obtain ⟨loaded, hloaded, hprinted⟩ : ∃ loaded : Scene σ,
      (Act.ofNoted (Catalog.load files (withFolder own folder).sourcesFolder)).runOn
        { scene with journal := (scene.journal.choose own.logLevel).1 } = (.ok sources, loaded) ∧
      loaded.printed = scene.printed := by
    rw [Act.runOn_ofNoted, hload]
    exact ⟨_, rfl, rfl⟩
  obtain ⟨ready, hready, hsame⟩ : ∃ ready : Scene σ,
      (Act.ofNoted (Routing.ofCatalog sources (withFolder own folder).connectorTypes
        (withFolder own folder).secretArns)).runOn loaded = (.ok routing, ready) ∧
      ready.printed = loaded.printed := by
    rw [Act.runOn_ofNoted, hroutes]
    exact ⟨_, rfl, rfl⟩
  refine ⟨ready, hsame.trans hprinted, ?_⟩
  rw [listSources, runOn_bind_of_ok (runOn_settingsOf hown hlevel folder scene),
    runOn_bind_of_ok (runOn_orRefuse_of_ok hloaded),
    runOn_bind_of_ok (runOn_liftM_of_ok hready)]
  have hnames : (routing.names.forM fun name => Act.print (sourceLine routing name)) =
      (Act.printLines (routing.names.map (sourceLine routing)) : Act σ Unit) :=
    (List.forM_map ..).symm
  rw [hnames, listing, Act.printLines_append, Session.runOn_bind, Session.runOn_liftM,
    Session.runOn_liftM, Act.runOn_bind]
  rcases (Act.printLines (routing.names.map (sourceLine routing))).runOn ready with
    ⟨fault | _, listed⟩
  · rfl
  · cases hskipped : skippedNames sources routing with
    | nil => rfl
    | cons name rest =>
      rw [if_neg (List.cons_ne_nil name rest), Act.printLines_singleton]
      exact Session.runOn_liftM _ listed

theorem prints_of_runOn_run {arguments : List Text} {files : FileTree} {env : Environment}
    {folder : Option Text} {lines : List Text} {scene ready : Scene σ}
    (hcommand : Platform.arguments arguments = .ok (.sources folder))
    (hready : ready.printed = scene.printed)
    (hlist : (listSources files env folder).runOn scene =
      (liftM (Act.printLines (σ := σ) lines) : Session σ Unit).runOn ready)
    (services : Services σ) (n : Nat) :
    Prints lines scene ((run services files env n arguments).runOn scene).1
      ((run services files env n arguments).runOn scene).2 := by
  have hrun : (runCommand services files env n (.sources folder)).runOn scene =
      (liftM (Act.printLines (σ := σ) lines) : Session σ Unit).runOn ready := hlist
  rw [runOn_run hcommand, hrun, Session.runOn_liftM]
  constructor
  · intro hplain
    rw [Act.runOn_printLines_of_plain hplain, ← hready]
    exact ⟨rfl, rfl⟩
  · rintro earlier line later rfl hearlier hline
    rw [Act.runOn_printLines_of_not_plain hearlier hline, ← hready]
    exact ⟨rfl, rfl⟩

end Settings

end CommandLine

/-! ## What is refused as unknown -/

/-- Whether a failure says that the source is unknown. -/
def Failure.isUnknown (failure : Failure) : Bool :=
  match failure.cause with
  | .unknownSource _ => true
  | _ => false

theorem Failure.isUnknown_of_isLate {failure : Failure} (h : failure.cause.IsLate) :
    failure.isUnknown = false := by
  obtain ⟨id, source, cause⟩ := failure
  cases h <;> rfl

section Unknown

variable [Json.Limits]

/-- The failure of a message with an id whose request asks for a source that is not listed. -/
def Message.unlisted? (listed : List Text) (m : Message) : Option Failure :=
  if m.id.isNull then none
  else match PullRequest.ofBody m.body with
    | .ok request =>
      if request.source ∈ listed then none
      else some ⟨m.id, some request.source, .unknownSource request.source⟩
    | .error _ => none

theorem Message.exists_of_unlisted? {listed : List Text} {m : Message} {failure : Failure}
    (h : m.unlisted? listed = some failure) :
    ∃ name, name ∉ listed ∧ failure.cause = .unknownSource name := by
  unfold unlisted? at h
  split at h
  · cases h
  · split at h
    · next request _ =>
      split at h
      · cases h
      · next hlisted =>
        cases h
        exact ⟨request.source, hlisted, rfl⟩
    · cases h

namespace Verdict

/-- Before the first pull the unknown sources are refused, and they are those that are not among
the names of the routing. -/
theorem unknown_of_judged {routing : Routing} {messages : List Message} {verdicts : List Verdict}
    (h : Judged routing messages verdicts) :
    (verdicts.filterMap Verdict.failure?).filter Failure.isUnknown =
      messages.filterMap (Message.unlisted? routing.names) := by
  induction h with
  | nil => rfl
  | @cons m verdict messages verdicts hm _ ih =>
    have hnames : ∀ name, name ∈ routing.names ↔ (routing.find? name).isSome :=
      routing.mem_names_iff
    cases given_of_eq_ok hm with
    | dropped hid => simpa [List.filterMap_cons, Message.unlisted?, hid] using ih
    | malformed hid hbody =>
      simpa [List.filterMap_cons, List.filter_cons, Message.unlisted?, hid, hbody,
        Failure.isUnknown] using ih
    | unknown hid hbody hroute =>
      simpa [List.filterMap_cons, List.filter_cons, Message.unlisted?, hid, hbody,
        Failure.isUnknown, hnames, hroute] using ih
    | ready hid hbody hroute =>
      simpa [List.filterMap_cons, Message.unlisted?, hid, hbody, hnames, hroute] using ih

end Verdict

/-- Of the failures of a batch those for unknown sources are those of the messages that ask for a
source without a route. -/
theorem Pipeline.unknown_of_process {p : Pipeline σ} {services : Services σ}
    {messages : List Message} {s s' : Scene σ} {result : BatchResult}
    (h : (p.process services messages).runOn s = (.ok result, s')) :
    result.floor.failures.filter Failure.isUnknown =
      messages.filterMap (Message.unlisted? p.routing.names) := by
  obtain ⟨late, hfailures, hlate⟩ := p.exists_late services h
  obtain ⟨verdicts, free, floor, after, hjudged, -, -, -, rfl, -⟩ := p.process_eq_ok services h
  have hnone : late.filter Failure.isUnknown = [] :=
    List.filter_eq_nil_iff.mpr fun failure hfailure =>
      by simp [Failure.isUnknown_of_isLate (hlate failure hfailure)]
  rw [hfailures, List.filter_append, hnone, List.append_nil]
  exact Verdict.unknown_of_judged hjudged

end Unknown

namespace CommandLine

open Session

/--
**What is listed is what is accepted.**

Take an environment and files for which `process` gets its worker, with any folder for the catalog.
Then `sources` with the same folder gets to its list, whatever the scene: it prints a line for each
listed name and, if any are skipped, one for these, or as many of its lines as can be printed.
Listed and skipped names are each strictly increasing, none is both, and together they are the names
of the catalog, however often and with whatever types a name is declared. In every batch of the
worker the failures for unknown sources are, in the order of the messages, those of the messages
with an id and a request for a name that is not listed.
-/
theorem listing_tells_what_is_accepted [Platform] {services : Services σ} {files : FileTree}
    {env : Environment} {folder : Option Text} {scene started : Scene σ} {worker : Pipeline σ}
    (hstart : (settingsOf env folder >>= workerOf services files).runOn scene =
      (.ok (.ok worker), started)) :
    ∃ settings sources listed skipped, Settings.ofEnvironment env = .ok settings ∧
      (∀ lines, ((Catalog.load files (withFolder settings folder).sourcesFolder).runOn lines).1 =
        .ok sources) ∧
      (∀ n arguments scene', Platform.arguments arguments = .ok (.sources folder) →
        Prints (listing worker.routing listed skipped) scene'
          ((run services files env n arguments).runOn scene').1
          ((run services files env n arguments).runOn scene').2) ∧
      listed.Pairwise (fun s t => Text.compare s t = .lt) ∧
      skipped.Pairwise (fun s t => Text.compare s t = .lt) ∧ listed.Disjoint skipped ∧
      (∀ name, name ∈ listed ∨ name ∈ skipped ↔ ∃ source ∈ sources, source.name = name) ∧
      ∀ event result before after,
        (Worker.handle worker services event).runOn before = (.ok result, after) →
        ∃ messages, Worker.messagesOf event = .ok messages ∧
          result.floor.failures.filter Failure.isUnknown =
            messages.filterMap (Message.unlisted? listed) ∧
          ∀ m ∈ messages, ∀ request, m.id.isNull = false →
            PullRequest.ofBody m.body = .ok request →
            (⟨m.id, some request.source, .unknownSource request.source⟩ ∈ result.floor.failures ↔
              request.source ∉ listed) := by
  obtain ⟨settings, _, hsettings, hworker⟩ := exists_of_runOn_bind_eq_ok hstart
  obtain ⟨own, threshold, hown, hlevel, rfl⟩ := exists_of_settingsOf_eq_ok hsettings
  obtain ⟨bucket, sources, routing, -, ⟨lines, _, hload⟩, ⟨lines', _, hroutes⟩, rfl⟩ :=
    Worker.exists_of_start_eq_ok (runOn_of_orRefuse_eq_ok hworker)
  have hloads : ∀ lines,
      ((Catalog.load files (withFolder own folder).sourcesFolder).runOn lines).1 = .ok sources :=
    fun lines₁ => (Catalog.ignoresLines_load files _ lines₁ lines).trans (by rw [hload])
  have hroute : ∀ lines, ((Routing.ofCatalog sources (withFolder own folder).connectorTypes
      (withFolder own folder).secretArns).runOn lines).1 = .ok routing :=
    fun lines₁ => (Routing.ignoresLines_ofCatalog _ _ _ lines₁ lines').trans (by rw [hroutes])
  obtain ⟨routing', _, hroutes', hnames, hsettled⟩ := Routing.ofCatalog_eq sources
    (withFolder own folder).connectorTypes (withFolder own folder).secretArns lines'
  cases hroutes.symm.trans hroutes'
  refine ⟨own, sources, routing.names, skippedNames sources routing, hown, hloads, ?_,
    Text.pairwise_lt_sort hnames, (Text.pairwise_lt_sortDistinct _).filter _, ?_, ?_, ?_⟩
  · intro n arguments scene' hcommand
    obtain ⟨ready, hready, hlist⟩ := runOn_listSources hown hlevel hloads hroute scene'
    exact prints_of_runOn_run hcommand hready hlist services n
  · intro name hlisted hskipped
    exact (mem_skippedNames.mp hskipped).2 hlisted
  · intro name
    rw [mem_skippedNames]
    constructor
    · rintro (hlisted | ⟨hsource, -⟩)
      · exact exists_source_of_mem_names hsettled hlisted
      · exact hsource
    · intro hsource
      by_cases hlisted : name ∈ routing.names
      · exact .inl hlisted
      · exact .inr ⟨hsource, hlisted⟩
  · intro event result before after hhandle
    obtain ⟨messages, hmessages, hprocess⟩ := Worker.handle_eq_ok hhandle
    have hunknown : result.floor.failures.filter Failure.isUnknown =
        messages.filterMap (Message.unlisted? routing.names) := Pipeline.unknown_of_process hprocess
    refine ⟨messages, hmessages, hunknown, fun m hm request hid hbody => ?_⟩
    -- this failure is one of those for unknown sources, so it stands where these do
    have hmem : ∀ failure : Failure, failure.isUnknown = true →
        (failure ∈ result.floor.failures ↔
          failure ∈ messages.filterMap (Message.unlisted? routing.names)) := by
      intro failure hfailure
      rw [← hunknown, List.mem_filter, and_iff_left hfailure]
    rw [hmem _ rfl, List.mem_filterMap]
    constructor
    · rintro ⟨m', -, hunlisted⟩
      obtain ⟨name, hname, hcause⟩ := Message.exists_of_unlisted? hunlisted
      cases hcause
      exact hname
    · intro hunlisted
      exact ⟨m, hm, by simp [Message.unlisted?, hid, hbody, hunlisted]⟩

/-! ### One name with two types -/

attribute [local instance] Platform.builtIn

/-- The folder of a source with this name and type. -/
def folderOf (name type : Text) : FileTree :=
  .folder [(Catalog.configFile, .file ((Text.ofString "\x7bname: " ++ name ++
    Text.ofString ", managed: \x7btype: " ++ type ++
    Text.ofString ", properties: \x7burl: u\x7d\x7d\x7d").map fun s => UInt8.ofNat s.code))]

/-- The folders of a catalog that declares one name with two types, of which only the first is
accepted, and another name with the other type only. -/
def doubled : List (Text × FileTree) :=
  [("1", folderOf "a" "http_json"), ("2", folderOf "a" "other"), ("3", folderOf "b" "other")]

/-- The files with this catalog. -/
def doubledFiles : FileTree := .folder [("c", .folder doubled)]

/-- The source of this name and type. -/
def sourceOf (name type : Text) : LogSource := ⟨name, type, [(.text "url", .text "u")]⟩

/-- The sources of this catalog. -/
def doubledSources : List LogSource :=
  [sourceOf "a" "http_json", sourceOf "a" "other", sourceOf "b" "other"]

/-- Whether this is the source of this name and type. -/
def isSourceOf (name type : Text) : LogSource → Bool
  | ⟨name', type', [(.text k, .text v)]⟩ =>
    name' == name && type' == type && k == Text.ofString "url" && v == Text.ofString "u"
  | _ => false

theorem eq_of_isSourceOf {name type : Text} {source : LogSource}
    (h : isSourceOf name type source = true) : source = sourceOf name type := by
  unfold isSourceOf at h
  split at h
  · simp only [Bool.and_eq_true, beq_iff_eq] at h
    obtain ⟨⟨⟨rfl, rfl⟩, rfl⟩, rfl⟩ := h
    rfl
  · cases h

/-- Whether these are the sources of this catalog. -/
def areDoubled : List LogSource → Bool
  | [first, second, third] =>
    isSourceOf "a" "http_json" first && isSourceOf "a" "other" second &&
      isSourceOf "b" "other" third
  | _ => false

theorem doubled_loads : ∃ lines,
    (Catalog.load doubledFiles "/c").runOn #[] = (.ok doubledSources, lines) := by
  -- sorting the names does not reduce, so this step is taken apart
  have hnames : FileTree.names (.folder doubled) = ["1", "2", "3"] := by cbv
  have hsources : (((Catalog.load doubledFiles "/c").runOn #[]).1.toOption.any areDoubled) =
      true := by
    have hfind : doubledFiles.find? "/c" = some (.folder doubled) := rfl
    rw [Catalog.load_of_folder hfind, hnames]
    decide +kernel
  rcases hr : (Catalog.load doubledFiles "/c").runOn #[] with ⟨fault | sources, lines⟩ <;>
    rw [hr] at hsources
  · cases hsources
  · have hthree : areDoubled sources = true := hsources
    unfold areDoubled at hthree
    split at hthree
    · simp only [Bool.and_eq_true] at hthree
      obtain ⟨⟨hfirst, hsecond⟩, hthird⟩ := hthree
      rw [eq_of_isSourceOf hfirst, eq_of_isSourceOf hsecond, eq_of_isSourceOf hthird]
      exact ⟨lines, rfl⟩
    · cases hthree

/-- The services of a worker for this catalog. -/
def doubledServices : Services Unit := Counter.services (Counter.stored "t")

/-- A worker for this catalog. -/
def doubledWorker : Pipeline Unit :=
  Worker.make doubledServices Counter.routing (.ofBucket "bucket") none

theorem doubledWorker_starts : ∃ started,
    (settingsOf Counter.environment none >>= workerOf doubledServices doubledFiles).runOn
      (.start ()) = (.ok (.ok doubledWorker), started) := by
  have hsettings : Settings.ofEnvironment Counter.environment = .ok Counter.settings := by cbv
  obtain ⟨lines, hload⟩ := doubled_loads
  have hroutes : (Routing.ofCatalog doubledSources Counter.settings.connectorTypes
      Counter.settings.secretArns).runOn lines = (.ok Counter.routing, lines) := by cbv
  obtain ⟨routing, lines', started, hrouting, hstart⟩ := Worker.start_of_readable
    (s := Scene.start ()) doubledServices hsettings rfl rfl hload
  rw [hroutes] at hrouting
  cases hrouting
  rcases runOn_ready doubledServices doubledFiles Counter.environment (.start ()) with
    ⟨p, s', hok, hready⟩ | ⟨fault, s', -, herror, -⟩
  · cases hstart.symm.trans hok
    exact ⟨started, hready⟩
  · cases hstart.symm.trans herror

/-- An event that asks for both names. -/
def bothEvent : Json :=
  .object [("Records", .array [
    .object [("messageId", .string "m"),
      ("body", .string "\x7b\"log_source_name\": \"a\", \"time\": \"now\"\x7d")],
    .object [("messageId", .string "n"),
      ("body", .string "\x7b\"log_source_name\": \"b\", \"time\": \"now\"\x7d")]])]

/-- The name with an accepted type is listed and is not unknown to the worker; the other one is
skipped and is refused as unknown. -/
theorem accepted_type_is_listed :
    ∃ started listed skipped result after,
      (settingsOf Counter.environment none >>= workerOf doubledServices doubledFiles).runOn
        (.start ()) = (.ok (.ok doubledWorker), started) ∧
      Prints (listing Counter.routing listed skipped) (.start ())
        ((run doubledServices doubledFiles Counter.environment 0 ["sources"]).runOn (.start ())).1
        ((run doubledServices doubledFiles Counter.environment 0 ["sources"]).runOn
          (.start ())).2 ∧
      Text.ofString "a" ∈ listed ∧ Text.ofString "b" ∈ skipped ∧
      (Worker.handle doubledWorker doubledServices bothEvent).runOn (.start ()) =
        (.ok result, after) ∧
      result.floor.failures = [⟨.string "n", some "b", .unknownSource "b"⟩] := by
  obtain ⟨started, hstart⟩ := doubledWorker_starts
  obtain ⟨settings, sources, listed, skipped, hown, hload, hprints, -, -, -, hnames, hevents⟩ :=
    listing_tells_what_is_accepted hstart
  have hfailures : ((Worker.handle doubledWorker doubledServices bothEvent).runOn
      (.start ())).1.map (·.floor.failures) =
        .ok [⟨.string "n", some "b", .unknownSource "b"⟩] := by cbv
  rcases hhandle : (Worker.handle doubledWorker doubledServices bothEvent).runOn (.start ())
    with ⟨fault | result, after⟩
  · rw [hhandle] at hfailures
    cases hfailures
  · rw [hhandle] at hfailures
    have hresult : result.floor.failures = [⟨.string "n", some "b", .unknownSource "b"⟩] :=
      Except.ok.inj hfailures
    obtain ⟨messages, hmessages, -, hunlisted⟩ := hevents _ _ _ _ hhandle
    have hboth : Worker.messagesOf bothEvent = .ok [Shelf.request "m" "a", Shelf.request "n" "b"] :=
      by cbv
    cases hboth.symm.trans hmessages
    have hlisted : Text.ofString "a" ∈ listed := by
      by_contra habsent
      have hmem := (hunlisted (Shelf.request "m" "a") (by simp) ⟨"a", "now"⟩ rfl (by cbv)).mpr
        habsent
      rw [hresult, List.mem_singleton] at hmem
      exact absurd (Json.string.inj (Failure.mk.inj hmem).1) (by decide)
    have hskipped : Text.ofString "b" ∈ skipped := by
      have habsent := (hunlisted (Shelf.request "n" "b") (by simp) ⟨"b", "now"⟩ rfl (by cbv)).mp
        (by rw [hresult]; exact List.mem_singleton_self _)
      obtain ⟨lines, hloaded⟩ := doubled_loads
      have hsettings : Settings.ofEnvironment Counter.environment = .ok Counter.settings := by cbv
      cases hsettings.symm.trans hown
      have hsources := hload #[]
      rw [show (withFolder Counter.settings none).sourcesFolder = Text.ofString "/c" from rfl,
        hloaded] at hsources
      cases hsources
      exact ((hnames "b").mpr ⟨sourceOf "b" "other", by simp [doubledSources], rfl⟩).resolve_left
        habsent
    exact ⟨started, listed, skipped, result, after, hstart,
      hprints 0 ["sources"] (.start ()) (by decide), hlisted, hskipped, rfl, hresult⟩

end CommandLine

end LogHarvest
