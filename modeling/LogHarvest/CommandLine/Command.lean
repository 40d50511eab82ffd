import LogHarvest.Text.Basic

/-!
# Commands
-/

namespace LogHarvest.CommandLine

/-- What the user asks for. Each command may name another folder for the catalog. -/
inductive Command
  | sources (folder : Option Text)
  | process (file : Text) (folder : Option Text)
  | poll (queue : Text) (account : Option Text) (limit : Option Int) (folder : Option Text)
deriving DecidableEq, Repr

/-- Why there is no command to run: the arguments are wrong, or they ask for help, which is this text. -/
inductive Usage
  | wrong
  | help (text : Text)
deriving DecidableEq, Repr

end LogHarvest.CommandLine
