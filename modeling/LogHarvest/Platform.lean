import LogHarvest.CommandLine.Command
import LogHarvest.Data.Value
import LogHarvest.Fault
import LogHarvest.Json.Reader
import LogHarvest.Text.Utf8

/-!
# The platform

What the program is built on: how deep the JSON reader follows, how a YAML file is read, the codec of archived logs,
and how arguments are taken for a command. `Platform` says what each of them comes to, as a function of what it is
given. But for the two hundred levels of nesting nothing is assumed about them; laws that need more say so.
-/

namespace LogHarvest

/-- What compresses logs, and reads them back. -/
structure Codec where
  compress : Bytes → Except Fault Bytes
  decompress : Bytes → Except Fault Bytes

/-- What the program is built on. -/
class Platform extends Json.Limits where
  codec : Codec
  /-- The value of a YAML file with the given content. -/
  yaml : Bytes → Except DocumentFault Value
  /-- The command that arguments spell. -/
  arguments : List Text → Except CommandLine.Usage CommandLine.Command

end LogHarvest
