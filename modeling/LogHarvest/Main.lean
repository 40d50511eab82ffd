import LogHarvest.CommandLine
import LogHarvest.Platform.BuiltIn
import LogHarvest.Text.Identifier

/-!
# The program

The command line on a real machine: environment variables and files are read, the command is run, and what it printed
and wrote into the journal goes to the two outputs. No transport to the services is built in, so each of them answers
that it cannot be reached.
-/

namespace LogHarvest.Program

attribute [local instance] Platform.builtIn

/-- What the services of this machine remember: the time at which the program began, and random numbers. -/
structure Machine where
  began : Instant
  waited : Nat
  random : StdGen

/-- The fault of a service that cannot be reached. -/
def unreachable (place : Text) : Fault :=
  .outside .storage (Text.ofString "EndpointConnectionError")
    [.string (Text.ofString "Could not connect to the endpoint URL: \"" ++ place ++ Text.ofString "\"")]

/-- A random number of 128 bits. -/
def drawNumber (random : StdGen) : Nat × StdGen :=
  (List.range 8).foldl (fun (n, random) _ =>
    let (part, random) := randNat random 0 0xFFFF
    (n * 0x10000 + part, random)) (0, random)

/-- The services of this machine. -/
def services : Services Machine where
  openClient _ _ := return
  secret arn := return .error (unreachable arn)
  page request := return .error (unreachable request.url)
  store object := return .error (unreachable object.bucket)
  queue _ := return ⟨.error (unreachable Service.queue.name), false⟩
  freshId := do
    let machine ← get
    let (n, random) := drawNumber machine.random
    set { machine with random := random }
    return Identifier.ofRandom n
  now := do
    let machine ← get
    return { machine.began with seconds := machine.began.seconds + machine.waited }
  wait seconds := modify fun machine => { machine with waited := machine.waited + seconds }

/-! ## Reading the machine -/

/-- The seconds from the beginning of year 1 to that of 1970. -/
def epoch : Int := 62135596800

/-- The time now, which is when a file made now was last changed. -/
def readClock : IO Instant := do
  let (_, place) ← IO.FS.createTempFile
  let changed := (← place.metadata).modified
  IO.FS.removeFile place
  return ⟨epoch + changed.sec, changed.nsec.toNat / 1000⟩

/-- The environment variables that settings come from. -/
def variableNames : List String :=
  ["LOG_SOURCES_DIR", "PULLER_LOG_SOURCE_TYPES", "SECRET_ARNS", "INGESTION_BUCKET_NAME", "AWS_REGION",
    "PULLER_MAX_CONCURRENCY", "LOG_LEVEL"]

/-- The environment variables that are set. -/
def readEnvironment : IO Environment :=
  variableNames.filterMapM fun name => do
    return (← IO.getEnv name).map fun value => (Text.ofString name, Text.ofString value)

/-- The file at a path, with its content or with why it cannot be read. -/
def readFile (path : String) : IO FileTree := do
  try
    return .file (← IO.FS.readBinFile path).toList
  catch fault =>
    return .unreadable (Text.ofString "OSError") (Text.ofString (toString fault))

/-- The file or folder at a path, and what is in the folder down to `depth`. -/
def readFiles (depth : Nat) (path : String) : IO (Option FileTree) := do
  let place := (← IO.currentDir) / path
  if ← place.isDir then
    match depth with
    | 0 => return some (.folder [])
    | depth + 1 =>
      let entries ← (← place.readDir).toList.filterMapM fun entry => do
        let inside ← readFiles depth entry.path.toString
        return inside.map fun tree => (Text.ofString entry.fileName, tree)
      return some (.folder entries)
  else if ← place.pathExists then return some (← readFile place.toString)
  else return none

/-- The tree with what is at a path, and with the folders on the way there. -/
def addPath (tree : FileTree) (path : String) : IO FileTree := do
  match ← readFiles 2 path with
  | none => return tree
  | some inside =>
    let way := FileTree.resolve (Text.ofString path)
    if way.isEmpty then return inside
    return tree.put inside way

/-- The paths that a command may read. -/
def pathsOf (env : Environment) (arguments : List Text) : List Text :=
  let folder := (env.lookup (Text.ofString "LOG_SOURCES_DIR")).getD Settings.standardFolder
  match Platform.arguments arguments with
  | .ok (.sources given) => folder :: given.toList
  | .ok (.process file given) => folder :: file :: given.toList
  | .ok (.poll _ _ _ given) => folder :: given.toList
  | .error _ => []

/-! ## Running -/

/-- How many steps a poller makes. -/
def stepLimit : Nat := 1000000

/-- A text as far as it can be printed. -/
def toPrint (t : Text) : String := String.ofList (t.map fun s => s.char?.getD '?')

/-- Runs the program. -/
def run (arguments : List Text) : IO UInt32 := do
  let env ← readEnvironment
  let files ← (pathsOf env arguments).foldlM (fun tree path => addPath tree (toPrint path)) (.folder [])
  let machine : Machine := ⟨← readClock, 0, mkStdGen (← IO.rand 0 0xFFFFFFFF)⟩
  let (outcome, scene) := (CommandLine.run services files env stepLimit arguments).runOn (.start machine)
  IO.print (toPrint scene.printed)
  for line in scene.lines do
    if line.isShown scene.journal.threshold then IO.eprintln (toPrint line.render)
  match outcome with
  | .ok code => return code.toUInt32
  | .error fault =>
    IO.eprintln (toPrint (fault.kind ++ Text.ofString ": " ++ fault.message))
    return 1

end LogHarvest.Program

/-- The program. -/
def main (arguments : List String) : IO UInt32 :=
  LogHarvest.Program.run (arguments.map LogHarvest.Text.ofString)
