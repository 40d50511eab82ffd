import LogHarvest.Journal
import LogHarvest.Services

/-!
# Activities

An activity works on a scene: the services outside, the secrets kept so far, the lines written so far, how the journal
is set up, whether polling goes on, the seconds that have passed and what has been printed. It may fail; what it has
changed by then stays changed.
-/

namespace LogHarvest

/-- The entries of a secret. -/
abbrev Secret := List (Text × Text)

/-- All that an activity can change. -/
structure Scene (σ : Type) where
  outside : σ
  kept : List (Text × Secret)
  lines : Array Line
  journal : JournalSetup
  polling : Bool
  clock : Nat
  printed : Text

/-- A scene in which nothing has happened yet. -/
def Scene.start {σ : Type} (outside : σ) : Scene σ := ⟨outside, [], #[], .initial, false, 0, []⟩

/-- Lets seconds pass. -/
def Scene.pass {σ : Type} (scene : Scene σ) (services : Services σ) (seconds : Nat) : Scene σ :=
  { scene with
    outside := (services.wait seconds scene.outside).2
    clock := scene.clock + seconds }

/-- The scene with more lines. -/
def Scene.write {σ : Type} (scene : Scene σ) (lines : List Line) : Scene σ :=
  { scene with lines := scene.lines ++ lines }

/-- Something that works on a scene and may fail. -/
abbrev Act (σ : Type) := ExceptT Fault (StateM (Scene σ))

namespace Act

variable {σ α : Type}

/-- Runs an activity on a scene. -/
def runOn (act : Act σ α) (scene : Scene σ) : Except Fault α × Scene σ := StateT.run (ExceptT.run act) scene

/-- Writes lines. -/
def write (lines : List Line) : Act σ Unit :=
  modify fun scene => scene.write lines

/-- Lets seconds pass. -/
def pass (services : Services σ) (seconds : Nat) : Act σ Unit :=
  modify fun scene => scene.pass services seconds

/-- Writes a line. -/
def note (level : Level) (topic : Topic) (text : Text) : Act σ Unit := write [⟨level, topic, text⟩]

/-- Asks a service. -/
def ask (question : StateM σ α) : Act σ α := do
  let scene ← get
  let (answer, outside) := question.run scene.outside
  set { scene with outside := outside }
  return answer

/-- Asks a service that may fail. -/
def demand (question : StateM σ (Except Fault α)) : Act σ α := do
  match ← ask question with
  | .ok a => return a
  | .error fault => throw fault

/-- An activity that never fails, as it tells how it ended. -/
def attempt (act : Act σ α) : Act σ (Except Fault α) :=
  ExceptT.mk do return .ok (← act.run)

/-- An activity that only writes lines. -/
def ofNoted (noted : Noted α) : Act σ α := do
  let scene ← get
  let (r, lines) := StateT.run (ExceptT.run noted) scene.lines
  set { scene with lines := lines }
  match r with
  | .ok a => return a
  | .error fault => throw fault

/-- Sets the threshold of the journal by name. -/
def chooseThreshold (name : Text) : Act σ Unit := do
  let scene ← get
  let (journal, r) := scene.journal.choose name
  set { scene with journal := journal }
  liftM r

/-- Prints a text and ends the line. A text with halves cannot be printed. -/
def print (text : Text) : Act σ Unit := do
  if text.toString?.isNone then throw (.unencodable text)
  modify fun scene => { scene with printed := scene.printed ++ text ++ [.char '\n'] }

/-- Asks for polling to end. -/
def stopPolling : Act σ Unit := do
  note .info .queue (Text.ofString "Stopping SQSPoller...")
  modify fun scene => { scene with polling := false }

/-- Calls the queue service. -/
def callQueue (services : Services σ) (call : QueueCall) : Act σ Json := do
  let reply ← ask (services.queue call)
  if reply.stop then stopPolling
  match reply.answer with
  | .ok answer => return answer
  | .error fault => throw fault

@[simp]
theorem runOn_attempt (act : Act σ α) (scene : Scene σ) :
    (attempt act).runOn scene = (.ok (act.runOn scene).1, (act.runOn scene).2) := rfl

end Act

end LogHarvest
