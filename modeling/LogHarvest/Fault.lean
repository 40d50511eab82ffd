import LogHarvest.Archive.Fault
import LogHarvest.Calendar.Window
import LogHarvest.Data.Display
import LogHarvest.Json.Fault

/-!
# Faults

Everything that can go wrong, told apart by its cause. Each fault has a kind, by which callers and operators know it,
and a message. Inside another message a fault is shown as its kind with its arguments in parentheses.

`outside` is a fault of a service or a library that this program only passes on. It belongs to a family, and families
are what such faults are told apart by.
-/

namespace LogHarvest

/-- Why the settings or the catalog cannot be used. -/
inductive CatalogFault
  | notSet (setting : Text)
  | notJson (setting : Text) (fault : Json.Fault)
  | notTypeList
  | notSecretMap
  | notInteger (text : Text)
  | notPositive
  | noConfigFile (folder : Text)
  | unreadable (path : Text) (cause : Text)
deriving DecidableEq, Repr

/-- Why a message body is not a request. -/
inductive RequestFault
  | noBody
  | notText (kind : Text)
  | notJson (fault : Json.Fault)
  | notObject (body : Text)
  | fieldsNotText (body : Text)
  | stated (detail : Text)
deriving DecidableEq, Repr

/-- What a fault from outside belongs to. Nothing on the way may hold up an order to end the program, be it the user's
own or any other. -/
inductive Family
  | compression
  | storage
  | system
  | interrupt
  | exit
  | other
deriving DecidableEq, Repr

/-- Why a document has no value: it may be no document of known meaning, or hold something that does not spell its
value. -/
structure DocumentFault where
  ofDocument : Bool
  kind : Text
  message : Text
deriving DecidableEq, Repr

/-- Why something failed. -/
inductive Fault
  | outside (family : Family) (kind : Text) (arguments : List Json)
  | missingPath (detail : Text)
  | catalog (reason : CatalogFault)
  | unknownConnectorType (type : Text)
  | pullRequest (detail : Text) (source : Option Text)
  | malformedRequest (reason : RequestFault)
  | unknownSource (name : Text)
  | connector (source : Text) (cause : Fault)
  | archive (source key : Text) (cause : Fault)
  | json (fault : Json.Fault)
  | window (fault : Window.Fault)
  | integer (fault : Integer.Fault)
  | document (fault : DocumentFault)
  | frame (fault : Frame.Fault)
  | httpStatus (status : Int) (reason : Option Text) (url : Text)
  | noUrl
  | noSecretString (arn : Text)
  | deletionFailed (failed : Json)
  | unknownLevel (level : Text)
  | negativePermits
  | noPermits
  | missingKey (name : Text)
  | noMember (kind member : Text)
  | notIterable (kind : Text)
  | notHashable (kind : Text)
  | notJsonText (kind : Text)
  | notIndexable (kind : Text)
  | badIndex (kind : Text)
  | notContainer (kind : Text)
  | notNumber (kind : Text)
  | notFinite (nan : Bool)
  | noSuchFile (path : Text)
  | notDirectory (path : Text)
  | isDirectory (path : Text)
  | undecodable
  | unencodable (text : Text)
  | unimplemented (what : Text)
deriving Repr, Inhabited

/-- The wording of a catalog fault. -/
def CatalogFault.message : CatalogFault → Text
  | notSet setting => setting ++ Text.ofString " must be set."
  | notJson setting fault => setting ++ Text.ofString " is not valid JSON: " ++ fault.message
  | notTypeList => Text.ofString "PULLER_LOG_SOURCE_TYPES must be a JSON list of strings."
  | notSecretMap => Text.ofString "SECRET_ARNS must be a JSON object."
  | notInteger text => Text.ofString "PULLER_MAX_CONCURRENCY must be an integer: " ++ text
  | notPositive => Text.ofString "PULLER_MAX_CONCURRENCY must be a positive integer."
  | noConfigFile folder => Text.ofString "Log source directory " ++ folder ++ Text.ofString " has no log_source.yml."
  | unreadable path cause => Text.ofString "Failed to read " ++ path ++ Text.ofString ": " ++ cause

/-- The wording of a request fault. -/
def RequestFault.message : RequestFault → Text
  | noBody => Text.ofString "message has no body"
  | notText kind => Text.ofString "the JSON object must be str, bytes or bytearray, not " ++ kind
  | notJson fault => fault.message
  | notObject body => Text.ofString "expected a JSON object, got: " ++ body
  | fieldsNotText body => Text.ofString "`log_source_name` and `time` must be strings, got: " ++ body
  | stated detail => detail

namespace Fault

/-- The fault of a path that does not exist. -/
def noSuchPath (path : Text) : Fault :=
  .missingPath (Text.ofString "Path " ++ path ++ Text.ofString " does not exist.")

/-- The name of the kind of a fault. -/
def kind : Fault → Text
  | outside _ kind _ => kind
  | missingPath _ => Text.ofString "PathNotFoundException"
  | catalog _ => Text.ofString "CatalogLoadException"
  | unknownConnectorType _ => Text.ofString "UnknownConnectorTypeException"
  | pullRequest .. => Text.ofString "PullRequestException"
  | malformedRequest _ => Text.ofString "MalformedRequestException"
  | unknownSource _ => Text.ofString "UnknownLogSourceException"
  | connector .. => Text.ofString "ConnectorException"
  | archive .. => Text.ofString "ArchiveException"
  | json (.malformed ..) => Text.ofString "JSONDecodeError"
  | json (.tooLong _) => Text.ofString "ValueError"
  | json (.tooDeep _) => Text.ofString "RecursionError"
  | window _ => Text.ofString "OverflowError"
  | integer _ => Text.ofString "ValueError"
  | document fault => fault.kind
  | frame _ => Text.ofString "OSError"
  | httpStatus .. => Text.ofString "HTTPError"
  | noUrl | noSecretString _ | deletionFailed _ | unknownLevel _ | negativePermits => Text.ofString "ValueError"
  | noPermits => Text.ofString "Deadlock"
  | missingKey _ => Text.ofString "KeyError"
  | noMember .. => Text.ofString "AttributeError"
  | notFinite true => Text.ofString "ValueError"
  | notFinite false => Text.ofString "OverflowError"
  | notIterable _ | notHashable _ | notJsonText _ | notIndexable _ | badIndex _ | notContainer _ | notNumber _ =>
    Text.ofString "TypeError"
  | noSuchFile _ => Text.ofString "FileNotFoundError"
  | notDirectory _ => Text.ofString "NotADirectoryError"
  | isDirectory _ => Text.ofString "IsADirectoryError"
  | undecodable => Text.ofString "UnicodeDecodeError"
  | unencodable _ => Text.ofString "UnicodeEncodeError"
  | unimplemented _ => Text.ofString "NotImplementedError"

/-- A fault of a service: its kind with its arguments. -/
def shownOutside (kind : Text) (arguments : List Json) : Text :=
  kind ++ Text.ofString "(" ++ Text.join (Text.ofString ", ") (arguments.map Json.shown) ++ Text.ofString ")"

/-- Whether a fault of a service is about a missing key. -/
def isMissingKey (family : Family) (kind : Text) : Bool := family == .other && kind == Text.ofString "KeyError"

/-- The message of a fault of a service: its one argument, or all of them as shown. A missing key is shown quoted. -/
def outsideMessage (family : Family) (kind : Text) : List Json → Text
  | [] => []
  | [a] => bif isMissingKey family kind then a.shown else a.display
  | arguments => shownOutside [] arguments

/-- The half that a text cannot be encoded for, or the first run of them, with its place. -/
def unencodableMessage (text : Text) : Text :=
  let before := (text.takeWhile fun s => s.char?.isSome).length
  let run := (text.drop before).takeWhile fun s => s.char?.isNone
  let start := Text.ofString "'utf-8' codec can't encode character"
  let place := match run with
    | [s] => Text.ofString " '\\u" ++ Text.hex 4 s.code ++ Text.ofString "' in position " ++ Text.ofNat before
    | _ => Text.ofString "s in position " ++ Text.ofNat before ++ Text.ofString "-" ++
        Text.ofNat (before + run.length - 1)
  start ++ place ++ Text.ofString ": surrogates not allowed"

/-- How a fault with the given message is shown inside another one. -/
def shownAs (fault : Fault) (message : Text) : Text :=
  match fault with
  | outside _ kind arguments => shownOutside kind arguments
  | missingKey name => Text.ofString "KeyError(" ++ name.quoted ++ Text.ofString ")"
  | fault => fault.kind ++ Text.ofString "(" ++ message.quoted ++ Text.ofString ")"

/-- The message of a fault. -/
def message : Fault → Text
  | outside family kind arguments => outsideMessage family kind arguments
  | missingPath detail =>
    Text.ofString ("Failed to find a required configuration path. Please ensure the log source catalog is mounted." ++
      "\n\nFull error: ") ++ detail
  | catalog reason => reason.message
  | unknownConnectorType type => Text.ofString "No puller registered for log source type: " ++ type
  | pullRequest detail _ => detail
  | malformedRequest reason => Text.ofString "Malformed pull request: " ++ reason.message
  | unknownSource name => Text.ofString "Invalid log source: " ++ name
  | connector source cause =>
    Text.ofString "Error for log_source: " ++ source ++ Text.ofString ": " ++ cause.shownAs (message cause)
  | archive source key cause =>
    Text.ofString "Error putting " ++ key ++ Text.ofString " to S3 for log_source: " ++ source ++
      Text.ofString ": " ++ cause.shownAs (message cause)
  | json fault => fault.message
  | window fault => fault.message
  | integer fault => fault.message
  | document fault => fault.message
  | frame fault => fault.message
  | httpStatus status reason url =>
    Text.ofInt status ++
      Text.ofString (if status < 500 then " Client Error: " else " Server Error: ") ++
      reason.getD (Text.ofString "None") ++ Text.ofString " for url: " ++ url
  | noUrl => Text.ofString "http_json log sources require a `url` property"
  | noSecretString arn => Text.ofString "secret " ++ arn ++ Text.ofString " has no SecretString"
  | deletionFailed failed => Text.ofString "message delete failed: " ++ failed.display
  | unknownLevel level => Text.ofString "Unknown level: " ++ level.quoted
  | negativePermits => Text.ofString "Semaphore initial value must be >= 0"
  | noPermits => Text.ofString "requests wait for a permit that nobody gives back"
  | missingKey name => name.quoted
  | noMember kind member =>
    Text.ofString "'" ++ kind ++ Text.ofString "' object has no attribute '" ++ member ++ Text.ofString "'"
  | notIterable kind => Text.ofString "'" ++ kind ++ Text.ofString "' object is not iterable"
  | notHashable kind => Text.ofString "unhashable type: '" ++ kind ++ Text.ofString "'"
  | notJsonText kind => (RequestFault.notText kind).message
  | notIndexable kind => Text.ofString "'" ++ kind ++ Text.ofString "' object is not subscriptable"
  | badIndex kind =>
    if kind = Text.ofString "list" then Text.ofString "list indices must be integers or slices, not str"
    else Text.ofString "string indices must be integers, not 'str'"
  | notContainer kind => Text.ofString "argument of type '" ++ kind ++ Text.ofString "' is not iterable"
  | notNumber kind =>
    Text.ofString "int() argument must be a string, a bytes-like object or a real number, not '" ++ kind ++
      Text.ofString "'"
  | notFinite nan =>
    Text.ofString "cannot convert float " ++ Text.ofString (if nan then "NaN" else "infinity") ++
      Text.ofString " to integer"
  | noSuchFile path => Text.ofString "[Errno 2] No such file or directory: " ++ path.quoted
  | notDirectory path => Text.ofString "[Errno 20] Not a directory: " ++ path.quoted
  | isDirectory path => Text.ofString "[Errno 21] Is a directory: " ++ path.quoted
  | undecodable => Text.ofString "invalid bytes"
  | unencodable text => unencodableMessage text
  | unimplemented what => what ++ Text.ofString " not implemented"

/-- A fault inside the message of another one. -/
def shown (fault : Fault) : Text := fault.shownAs fault.message

/-- The source that a fault is about, if it is about one. -/
def source? : Fault → Option Text
  | pullRequest _ source => source
  | unknownSource name => some name
  | connector source _ | archive source _ _ => some source
  | _ => none

/-- The fault that caused this one. -/
def cause? : Fault → Option Fault
  | connector _ cause | archive _ _ cause => some cause
  | _ => none

/-- Whether the fault concerns a single pull request. -/
def isPullRequest : Fault → Bool
  | pullRequest .. | malformedRequest _ | unknownSource _ | connector .. | archive .. => true
  | _ => false

/-- The family of a fault. -/
def family : Fault → Family
  | outside family _ _ => family
  | noSuchFile _ | notDirectory _ | isDirectory _ | frame _ => .system
  | _ => .other

/-- Whether the fault makes a file unusable: it could not be read, or it is no document of known meaning. -/
def spoilsFile : Fault → Bool
  | document fault => fault.ofDocument
  | fault => fault.family = .system

/-- Whether the fault is an order to end the program, which nothing on the way may hold up. -/
def isInterrupt (fault : Fault) : Bool := fault.family = .interrupt || fault.family = .exit

end Fault

end LogHarvest
