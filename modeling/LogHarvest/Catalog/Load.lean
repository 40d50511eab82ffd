import LogHarvest.Catalog.Source
import LogHarvest.Files
import LogHarvest.Journal
import LogHarvest.Platform

/-!
# Loading the catalog

The catalog is a folder with one folder per log source, each with a file `log_source.yml`. The folders are read in the
order of their names, and the first that cannot be read makes the whole catalog unusable. Plain files in between are
ignored.
-/

namespace LogHarvest.Catalog

/-- The name of the file that declares a log source. -/
def configFile : Text := Text.ofString "log_source.yml"

section

variable [Platform]

/-- The value of a YAML file. -/
def fileValue (content : Bytes) : Except Fault Value := (Platform.yaml content).mapError Fault.document

/-- Reads the YAML file at a path; a path that leads nowhere reads as an empty mapping. -/
def valueAt (files : FileTree) (path : Text) : Except Fault Value :=
  if (files.find? path).isNone then .ok (.map []) else do fileValue (← files.read path)

/-- The declaration in a folder at the given path. A file that cannot be read and a text that is no document make the
catalog unusable; a scalar that does not spell its value is a fault of its own. -/
def readFolder (files : FileTree) (path : Text) : Except Fault Value :=
  let config := FileTree.join path configFile
  if !(files.find? config).any FileTree.isFile then .error (.catalog (.noConfigFile path))
  else (valueAt files config).mapError fun fault =>
    if fault.spoilsFile then .catalog (.unreadable config fault.message) else fault

end

/-- The log source that a value declares. Why one is passed over is worth a line, unless it is no mapping at all. -/
def declared (v : Value) : Noted (Option LogSource) := do
  match LogSource.ofValue v with
  | .ok source => return some source
  | .error reason =>
    match reason.message with
    | some text =>
      Noted.note .debug .catalog
        (Text.ofString "skipping log source config " ++ v.shown ++ Text.ofString ": " ++ text)
    | none => pure ()
    return none

variable [Platform]

/-- The log sources of the folders with the given names. -/
def loadFolders (files : FileTree) (path : Text) : List Text → Noted (List LogSource)
  | [] => return []
  | name :: rest => do
    let folder := FileTree.join path name
    if !(files.find? folder).any FileTree.isFolder then return ← loadFolders files path rest
    let source ← declared (← liftM (readFolder files folder))
    return source.toList ++ (← loadFolders files path rest)

/-- Loads the catalog in the folder at a path. -/
def load (files : FileTree) (path : Text) : Noted (List LogSource) := do
  liftM (files.checkPath path)
  let sources ← loadFolders files path (← liftM (files.list path))
  Noted.note .info .catalog
    (Text.ofString "loaded " ++ Text.ofNat sources.length ++ Text.ofString " managed log sources from " ++ path)
  return sources

end LogHarvest.Catalog
