import LogHarvest.Fault
import LogHarvest.Json.Reader

/-!
# Settings

The settings of a worker come from environment variables. The connector types and the secret references are JSON and
must be set; the rest has defaults.
-/

namespace LogHarvest

/-- The settings of a worker. -/
structure Settings where
  sourcesFolder : Text
  /-- The connector types that this worker handles; sources of other types are left to other workers. -/
  connectorTypes : List Text
  secretArns : List (Text × Text)
  bucket : Option Text
  region : Option Text
  /-- How many requests of a batch may be in flight; without it, all of them. -/
  cap : Option Int
  logLevel : Text
deriving DecidableEq, Repr

/-- Environment variables. -/
abbrev Environment := List (Text × Text)

namespace Settings

/-- Where the catalog is, unless a variable says otherwise. -/
def standardFolder : Text := Text.ofString "/opt/config/log_sources"

/-- The settings without any environment. -/
def standard : Settings where
  sourcesFolder := standardFolder
  connectorTypes := []
  secretArns := []
  bucket := none
  region := none
  cap := none
  logLevel := Text.ofString "INFO"

/-- The value of a variable that must hold JSON. -/
def jsonVariable [Json.Limits] (env : Environment) (name : Text) : Except Fault Json :=
  match env.lookup name with
  | none | some [] => .error (.catalog (.notSet name))
  | some raw =>
    match Json.read raw with
    | .ok v => .ok v
    | .error (.malformed problem place) => .error (.catalog (.notJson name (.malformed problem place)))
    | .error fault => .error (.json fault)

/-- The text of a JSON string. -/
def text? : Json → Option Text
  | .string t => some t
  | _ => none

/-- The connector types. -/
def readTypes : Json → Except Fault (List Text)
  | .array items =>
    match items.mapM text? with
    | some types => .ok types
    | none => .error (.catalog .notTypeList)
  | _ => .error (.catalog .notTypeList)

/-- The secret references. A reference that is no text counts as the text that shows it. -/
def readSecretArns : Json → Except Fault (List (Text × Text))
  | .object members => .ok (members.map fun m => (m.1, m.2.display))
  | _ => .error (.catalog .notSecretMap)

/-- The cap on requests in flight: none if the variable is not set or empty, else a positive integer. -/
def readCap : Option Text → Except Fault (Option Int)
  | none | some [] => .ok none
  | some text =>
    match Integer.read text with
    | .error _ => .error (.catalog (.notInteger text))
    | .ok n => if n < 1 then .error (.catalog .notPositive) else .ok (some n)

/-- A variable that counts as not set when it is empty. -/
def nonEmpty (env : Environment) (name : Text) : Option Text :=
  (env.lookup name).filter fun t => !t.isEmpty

/-- Reads the settings. The first unusable variable is reported. -/
def ofEnvironment [Json.Limits] (env : Environment) : Except Fault Settings := do
  let types ← readTypes (← jsonVariable env (Text.ofString "PULLER_LOG_SOURCE_TYPES"))
  let arns ← readSecretArns (← jsonVariable env (Text.ofString "SECRET_ARNS"))
  let cap ← readCap (env.lookup (Text.ofString "PULLER_MAX_CONCURRENCY"))
  return {
    sourcesFolder := (env.lookup (Text.ofString "LOG_SOURCES_DIR")).getD standardFolder
    connectorTypes := types
    secretArns := arns
    bucket := nonEmpty env (Text.ofString "INGESTION_BUCKET_NAME")
    region := nonEmpty env (Text.ofString "AWS_REGION")
    cap := cap
    logLevel := (env.lookup (Text.ofString "LOG_LEVEL")).getD (Text.ofString "INFO") }

/-- A cap that was read is positive. -/
theorem one_le_of_readCap {t : Option Text} {n : Int} (h : readCap t = .ok (some n)) : 1 ≤ n := by
  unfold readCap at h
  split at h
  · simp at h
  · simp at h
  · split at h
    · simp at h
    · split at h
      · simp at h
      · simp only [Except.ok.injEq, Option.some.injEq] at h
        omega

end Settings

end LogHarvest
