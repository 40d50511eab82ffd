import LogHarvest.CommandLine.Command
import LogHarvest.Number.Integer
import LogHarvest.Text.Named

/-!
# Arguments

The first argument names a command. Behind it options and other arguments may stand in any order; an option takes the
argument behind it, or what follows an equals sign. Of an option that is given twice the last one counts, and behind
two hyphens there are no more options.
-/

namespace LogHarvest.CommandLine

/-- Arguments sorted into options and others. -/
structure Given where
  options : List (Text × Text)
  others : List Text
  help : Bool
deriving DecidableEq, Repr

/-- What help there is. -/
def helpText : Text :=
  Text.ofString ("Pull logs from managed log sources and archive them to S3.\n\n" ++
    "Commands:\n  sources\n  process EVENT_FILE\n" ++
    "  poll --queue-name NAME [--aws-account-id ID] [--max-batches N]\n\n" ++
    "Every command takes --log-sources-dir DIR.")

/-- The option that asks for help. -/
def helpOption : Text := Text.ofString "--help"

/-- Whether an argument is meant as an option: a hyphen with something behind it. -/
def isOption (argument : Text) : Bool := argument.startsWith (Text.ofString "-") && 1 < argument.length

/-- An argument up to its first equals sign, and what follows the sign. -/
def splitValue (argument : Text) : Text × Option Text :=
  let name := argument.takeWhile (· != .char '=')
  match argument.drop name.length with
  | [] => (name, none)
  | _ :: value => (name, some value)

namespace Given

/-- No arguments. -/
def none : Given := ⟨[], [], false⟩

/-- One more option. -/
def withOption (g : Given) (name value : Text) : Given := { g with options := putNamed g.options name value }

/-- Sorts arguments; `known` are the options that take a value. -/
def ofArguments (known : List Text) (g : Given) : List Text → Except Usage Given
  | [] => .ok g
  | argument :: rest =>
    if argument = Text.ofString "--" then .ok { g with others := g.others ++ rest }
    else if !isOption argument then ofArguments known { g with others := g.others ++ [argument] } rest
    else if argument = helpOption then ofArguments known { g with help := true } rest
    else
      let (name, value) := splitValue argument
      if !known.contains name then .error .wrong
      else match value with
        | some value => ofArguments known (g.withOption name value) rest
        | Option.none =>
          match rest with
          | [] => .error .wrong
          | value :: rest => ofArguments known (g.withOption name value) rest

/-- The value of an option. -/
def option? (g : Given) (name : Text) : Option Text := g.options.lookup name

end Given

/-- The option for the folder of the catalog. -/
def folderOption : Text := Text.ofString "--log-sources-dir"

/-- The option for the name of the queue. -/
def queueOption : Text := Text.ofString "--queue-name"

/-- The option for the account that owns the queue. -/
def accountOption : Text := Text.ofString "--aws-account-id"

/-- The option for the number of batches. -/
def limitOption : Text := Text.ofString "--max-batches"

namespace Command

/-- The options of a command, if there is such a command. -/
def optionsOf (name : Text) : Option (List Text) :=
  if name = Text.ofString "sources" ∨ name = Text.ofString "process" then some [folderOption]
  else if name = Text.ofString "poll" then some [queueOption, accountOption, limitOption, folderOption]
  else none

/-- The limit that an option gives. -/
def limitOf : Option Text → Except Usage (Option Int)
  | none => .ok none
  | some text =>
    match Integer.read text with
    | .ok n => .ok (some n)
    | .error _ => .error .wrong

/-- The command of a name with its arguments. -/
def ofGiven (name : Text) (g : Given) : Except Usage Command := do
  let folder := g.option? folderOption
  if g.help then .error (.help helpText)
  else if name = Text.ofString "sources" then
    match g.others with
    | [] => return .sources folder
    | _ => .error .wrong
  else if name = Text.ofString "process" then
    match g.others with
    | [file] => return .process file folder
    | _ => .error .wrong
  else
    let limit ← limitOf (g.option? limitOption)
    match g.option? queueOption, g.others with
    | some queue, [] => return .poll queue (g.option? accountOption) limit folder
    | _, _ => .error .wrong

/-- The command in front of its arguments. -/
def ofWords : List Text → Except Usage Command
  | [] => .error .wrong
  | name :: rest =>
    match optionsOf name with
    | none => .error .wrong
    | some known => do ofGiven name (← Given.ofArguments known .none rest)

/-- The command that arguments spell. Options in front of it can only ask for help. -/
def ofArguments : List Text → Except Usage Command
  | [] => .error .wrong
  | first :: rest =>
    if first = helpOption then .error (.help helpText)
    else if first = Text.ofString "--" then ofWords rest
    else if isOption first then .error .wrong
    else ofWords (first :: rest)

end Command

end LogHarvest.CommandLine
