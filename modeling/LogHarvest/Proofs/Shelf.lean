import LogHarvest.Json.Printer
import LogHarvest.Platform.BuiltIn
import LogHarvest.Worker

/-!
# A shelf

Services small enough to be followed by hand. The object store takes every object and keeps it in
order; identifiers are counted; the queue answers from a list of replies, one call after another,
and with nothing once it is used up.

A counter has what the shelf lacks, secrets and pages, and remembers nothing.
-/

namespace LogHarvest

attribute [local instance] Platform.builtIn

/-- What the services on a shelf remember. -/
structure Shelf where
  objects : List StoredObject
  replies : List QueueReply

namespace Shelf

/-- The shelf on which nothing has been put yet. -/
def empty (replies : List QueueReply) : Shelf := ⟨[], replies⟩

/-- The services on a shelf. There are neither secrets nor pages. -/
def services : Services Shelf where
  openClient _ _ := pure ()
  secret arn := pure (.error (.noSecretString arn))
  page request := pure (.error (.missingKey request.url))
  store object := fun shelf => (.ok (), { shelf with objects := shelf.objects ++ [object] })
  queue _ := fun shelf => (shelf.replies.headD ⟨.ok (.object []), false⟩,
    { shelf with replies := shelf.replies.tail })
  freshId := fun shelf => (Text.ofNat shelf.objects.length, shelf)
  now := pure ⟨0, 0⟩
  wait _ := pure ()

/-- The type of the sources on a shelf. -/
def type : Text := Text.ofString "fake"

/-- Takes a second for each pull; the logs are what the secret reference of the route spells. -/
def connector : Connector Shelf where
  pull route := pure ⟨1, .ok (route.secretRef.map fun s => UInt8.ofNat s.code)⟩

/-- The pipeline for two sources, of which the second has nothing new. -/
def pipeline (cap : Option Int) : Pipeline Shelf where
  routing := ⟨[(Text.ofString "ok", ⟨Text.ofString "log", type, []⟩),
    (Text.ofString "idle", ⟨[], type, []⟩)]⟩
  connectors := ⟨[(type, connector)]⟩
  writer := .ofBucket (Text.ofString "bucket")
  cap := cap

/-- A message that asks for the logs of a source. -/
def request (id source : String) : Message :=
  ⟨.string id,
    .string (Json.print (.object [("log_source_name", .string source), ("time", .string "now")]))⟩

/-- A message with the given body. -/
def message (id : String) (body : Text) : Message := ⟨.string id, .string body⟩

theorem eq_connector {cap : Option Int} {t : Text} {c : Connector Shelf}
    (h : (pipeline cap).connectors.find t = .ok c) : c = connector := by
  rw [Registry.find_eq_ok_iff] at h
  simp only [pipeline, List.lookup_cons, List.lookup_nil] at h
  split at h
  · exact (Option.some.inj h).symm
  · cases h

/-- What comes of the messages on an empty shelf. -/
def run (cap : Option Int) (messages : List Message) : Except Fault BatchResult × Scene Shelf :=
  ((pipeline cap).process services messages).runOn (.start (.empty []))

end Shelf

namespace Counter

/-- The secret whose token is a word with the reference of the secret behind it. -/
def stored (word arn : Text) : Text :=
  Text.ofString "\x7b\"api_token\": \"" ++ word ++ arn ++ Text.ofString "\"\x7d"

/-- The services of a counter with these secrets, where every page has the same two bytes. -/
def services (stored : Text → Text) : Services Unit where
  openClient _ _ := pure ()
  secret arn := pure (.ok (.object [("SecretString", .string (stored arn))]))
  page _ := pure (.ok ⟨"u", 200, none, [1, 2]⟩)
  store _ := pure (.ok ())
  queue _ := pure ⟨.ok (.object []), false⟩
  freshId := pure "id"
  now := pure ⟨0, 0⟩
  wait _ := pure ()

/-- The declaration of a source. -/
def declaration : Text :=
  Text.ofString "\x7bname: a, managed: \x7btype: http_json, properties: \x7burl: u\x7d\x7d\x7d"

/-- A catalog of one source. -/
def files : FileTree :=
  .folder [("c", .folder [("a", .folder [(Catalog.configFile, .file
    (declaration.map fun s => UInt8.ofNat s.code))])])]

/-- The environment of a worker for this source and for another one. -/
def environment : Environment :=
  [("PULLER_LOG_SOURCE_TYPES", "[\"http_json\"]"),
    ("SECRET_ARNS", "\x7b\"a\": \"A\", \"b\": \"B\"\x7d"),
    ("INGESTION_BUCKET_NAME", "bucket"), ("LOG_SOURCES_DIR", "/c")]

/-- The source in this catalog. -/
def source : LogSource := ⟨"a", "http_json", [(.text "url", .text "u")]⟩

/-- The settings in this environment. -/
def settings : Settings where
  sourcesFolder := "/c"
  connectorTypes := ["http_json"]
  secretArns := [("a", "A"), ("b", "B")]
  bucket := some "bucket"
  region := none
  cap := none
  logLevel := "INFO"

/-- The routes of a worker with these settings for this catalog. -/
def routing : Routing :=
  ⟨[("a", ⟨"A", "http_json", [("url", "u"), ("log_source_type", "http_json")]⟩)]⟩

/-- An event with a request for the source. -/
def event : Json :=
  .object [("Records", .array [.object [("messageId", .string "m"),
    ("body", .string "\x7b\"log_source_name\": \"a\", \"time\": \"now\"\x7d")]])]

end Counter

end LogHarvest
