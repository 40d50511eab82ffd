import LogHarvest.Json.Printer
import LogHarvest.Queue.Poller
import LogHarvest.Worker

/-!
# The command line

`sources` lists what this worker can pull, `process` takes an event from a file, and `poll` takes messages from a
queue. A command ends with an exit code: 0 if all is well, 1 if it cannot start, 2 if the arguments are wrong or if
messages of the event failed. Faults that no command expects escape.
-/

namespace LogHarvest.CommandLine

/-- A command at work: it may end early with an exit code. -/
abbrev Session (σ : Type) := ExceptT Nat (Act σ)

variable [Platform] {σ : Type}

/-- Ends with an exit code. -/
def leave {α : Type} (code : Nat) : Session σ α := ExceptT.mk (pure (.error code))

/-- Prints why a command cannot start, and ends. -/
def refuse {α : Type} (reason : Text) : Session σ α := do
  liftM (Act.print (σ := σ) reason)
  leave 1

/-- Whether a fault means that a worker cannot start as it is set up. -/
def forbidsStart : Fault → Bool
  | .catalog _ | .missingPath _ => true
  | _ => false

/-- The outcome of an activity; a fault that forbids to start is printed behind `preface` and ends the command. -/
def orRefuse {α : Type} (preface : String) (act : Act σ α) : Session σ α := do
  match ← liftM (Act.attempt act) with
  | .ok a => return a
  | .error fault =>
    if forbidsStart fault then refuse (Text.ofString preface ++ fault.message)
    else liftM (throw fault : Act σ α)

/-- The settings with another folder for the catalog, if one is given. -/
def withFolder (settings : Settings) (folder : Option Text) : Settings :=
  match folder with
  | none | some [] => settings
  | some folder => { settings with sourcesFolder := folder }

/-- The settings of a command. -/
def settingsOf (env : Environment) (folder : Option Text) : Session σ Settings := do
  let settings ← orRefuse "" (liftM (Settings.ofEnvironment env) : Act σ Settings)
  liftM (Act.chooseThreshold settings.logLevel : Act σ Unit)
  return withFolder settings folder

/-- The worker of a command. -/
def workerOf (services : Services σ) (files : FileTree) (settings : Settings) : Session σ (Pipeline σ) :=
  orRefuse "Failed to start worker: " (Worker.start services files settings)

/-! ## Commands -/

/-- What the list of sources says of the one with the given name. -/
def sourceLine (routing : Routing) (name : Text) : Text :=
  name ++ [.char '\t'] ++ ((routing.find? name).map (·.type)).getD []

/-- The names of the catalog that are not pulled. -/
def skippedNames (sources : List LogSource) (routing : Routing) : List Text :=
  (Text.sortDistinct (sources.map (·.name))).filter fun name => !routing.names.contains name

/-- Lists the sources. -/
def listSources (files : FileTree) (env : Environment) (folder : Option Text) : Session σ Unit := do
  let settings ← settingsOf env folder
  let sources ← orRefuse "" (Act.ofNoted (Catalog.load files settings.sourcesFolder))
  let routing ← liftM
    (Act.ofNoted (Routing.ofCatalog sources settings.connectorTypes settings.secretArns) : Act σ Routing)
  liftM (routing.names.forM fun name => Act.print (sourceLine routing name) : Act σ Unit)
  let skipped := skippedNames sources routing
  if !skipped.isEmpty then
    liftM (Act.print (Text.ofString "skipped: " ++ Text.join (Text.ofString ", ") skipped) : Act σ Unit)

/-- The event in a file. -/
def eventOf (content : Bytes) : Except Fault Json :=
  match Text.ofFile? content with
  | none => .error .undecodable
  | some text => (Json.read (text.map Symbol.char)).mapError Fault.json

/-- The event in the file at a path. -/
def readEvent (files : FileTree) (path : Text) : Session σ Json := do
  if (files.find? path).isNone then
    refuse (Text.ofString "Event file " ++ path ++ Text.ofString " does not exist.")
  else liftM (liftM (files.read path >>= eventOf) : Act σ Json)

/-- Processes an event. -/
def processEvent (services : Services σ) (files : FileTree) (env : Environment) (path : Text)
    (folder : Option Text) : Session σ Unit := do
  let event ← readEvent files path
  let worker ← workerOf services files (← settingsOf env folder)
  let result ← liftM (Worker.handle worker services event)
  liftM (Act.print (Worker.response result).print : Act σ Unit)
  if result.report.isSome then leave 2

/-- Polls until it ends or the user interrupts it, for at most `n` steps. -/
def pollUntilInterrupted (services : Services σ) (poller : Poller σ) (n : Nat) : Act σ Unit := do
  match ← Act.attempt (poller.run services n) with
  | .ok _ => return
  | .error fault =>
    if fault.family = .interrupt then Act.note .info .worker (Text.ofString "interrupted, exiting")
    else throw fault

/-- Polls a queue. -/
def pollQueue (services : Services σ) (files : FileTree) (env : Environment) (n : Nat) (queue : Text)
    (account : Option Text) (limit : Option Int) (folder : Option Text) : Session σ Unit := do
  let settings ← settingsOf env folder
  let worker ← workerOf services files settings
  liftM (Act.ask (services.openClient .queue settings.region) : Act σ Unit)
  let source ← liftM (QueueSource.find services queue account QueueSource.standardWait)
  liftM (pollUntilInterrupted services ⟨worker, source, limit⟩ n)

/-- Runs a command. -/
def runCommand (services : Services σ) (files : FileTree) (env : Environment) (n : Nat) :
    Command → Session σ Unit
  | .sources folder => listSources files env folder
  | .process path folder => processEvent services files env path folder
  | .poll queue account limit folder => pollQueue services files env n queue account limit folder

/-- Runs the command that arguments spell, polling for at most `n` steps; gives the exit code. -/
def run (services : Services σ) (files : FileTree) (env : Environment) (n : Nat) (arguments : List Text) :
    Act σ Nat := do
  match Platform.arguments arguments with
  | .error .wrong => return 2
  | .error (.help text) =>
    Act.print text
    return 0
  | .ok command =>
    match ← (runCommand services files env n command).run with
    | .ok () => return 0
    | .error code => return code

end LogHarvest.CommandLine
