import LogHarvest.Archive.Stored
import LogHarvest.CommandLine.Arguments
import LogHarvest.Platform
import LogHarvest.Yaml.File

/-!
# The built-in platform

A platform that needs nothing else: the readers and the codec are those of this library.
-/

namespace LogHarvest

/-- The platform that this library brings along. -/
@[reducible]
def Platform.builtIn : Platform where
  depthLimit := 990
  enough := by decide
  codec := .stored
  yaml := Yaml.readFile 490
  arguments := CommandLine.Command.ofArguments

end LogHarvest
