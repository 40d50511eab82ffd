import LogHarvest.Fault

/-!
# The journal

What the program reports while it works. A line has a level, the activity that wrote it and its text; the threshold of
the settings decides which lines are shown.

`Noted` is the monad of what only writes lines and may fail. Lines written before a fault stay.
-/

namespace LogHarvest

/-- How grave a line is. -/
inductive Level
  | debug
  | info
  | warning
  | error
deriving DecidableEq, Repr

/-- The activity that a line comes from. -/
inductive Topic
  | catalog
  | routing
  | secrets
  | connector
  | archive
  | failures
  | batch
  | queue
  | worker
deriving DecidableEq, Repr

/-- A line of the journal. -/
structure Line where
  level : Level
  topic : Topic
  text : Text
deriving DecidableEq, Repr

/-- From which level on lines are shown. -/
inductive Threshold
  | all
  | debug
  | info
  | warning
  | error
  | critical
deriving DecidableEq, Repr

/-- The rank of a level. -/
def Level.rank : Level → Nat
  | debug => 1
  | info => 2
  | warning => 3
  | error => 4

/-- The name of a level. -/
def Level.name : Level → Text
  | debug => Text.ofString "DEBUG"
  | info => Text.ofString "INFO"
  | warning => Text.ofString "WARNING"
  | error => Text.ofString "ERROR"

namespace Threshold

/-- The least rank that is shown. -/
def rank : Threshold → Nat
  | all => 0
  | debug => 1
  | info => 2
  | warning => 3
  | error => 4
  | critical => 5

/-- The name of a threshold. -/
def name : Threshold → Text
  | all => Text.ofString "NOTSET"
  | debug => Text.ofString "DEBUG"
  | info => Text.ofString "INFO"
  | warning => Text.ofString "WARNING"
  | error => Text.ofString "ERROR"
  | critical => Text.ofString "CRITICAL"

/-- The names by which a threshold can be chosen; two of them have a second name. -/
def names : List (Text × Threshold) :=
  [all, debug, info, warning, error, critical].map (fun t => (t.name, t)) ++
    [(Text.ofString "WARN", warning), (Text.ofString "FATAL", critical)]

/-- The threshold of a name. Names are in capital letters. -/
def ofName (name : Text) : Except Fault Threshold :=
  match names.lookup name with
  | some t => .ok t
  | none => .error (.unknownLevel name)

end Threshold

/-- Whether a threshold shows a line. -/
def Line.isShown (line : Line) (threshold : Threshold) : Bool := threshold.rank ≤ line.level.rank

/-- A line as it is shown. -/
def Line.render (line : Line) : Text := line.level.name ++ Text.ofString ":" ++ line.text

/-- How the journal is set up: the threshold of this program, and one for the libraries under it, which would report
every request otherwise. Nothing is shown before there is an outlet. -/
structure JournalSetup where
  outlets : Nat
  threshold : Threshold
  libraries : Threshold
deriving DecidableEq, Repr

namespace JournalSetup

/-- The journal before it is set up. -/
def initial : JournalSetup := ⟨0, .warning, .all⟩

/-- The layout of a shown line: time, level, name and text. -/
def layout : Text := Text.ofString "%(asctime)s %(levelname)s %(name)s: %(message)s"

/-- Sets the threshold by name. The outlet is made first and only once. -/
def choose (setup : JournalSetup) (name : Text) : JournalSetup × Except Fault Unit :=
  let setup := { setup with outlets := max setup.outlets 1 }
  match Threshold.ofName name with
  | .ok t => ({ setup with threshold := t, libraries := .warning }, .ok ())
  | .error fault => (setup, .error fault)

end JournalSetup

/-- Something that writes lines and may fail. -/
abbrev Noted := ExceptT Fault (StateM (Array Line))

/-- Writes a line. -/
def Noted.note (level : Level) (topic : Topic) (text : Text) : Noted Unit :=
  modify fun lines => lines.push ⟨level, topic, text⟩

end LogHarvest
