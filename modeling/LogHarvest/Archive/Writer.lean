import LogHarvest.Platform
import LogHarvest.Scene

/-!
# Archiving

The logs of a pull are stored compressed, as one object under the name of their source. Failures of compression and of
the object store belong to the outcome; any other fault is left to the caller.
-/

namespace LogHarvest

/-- What became of the logs of a pull. -/
inductive Outcome
  | archived (size : Nat) (key : Text)
  | noNewData
  | failed (cause : Fault)
deriving Repr

/-- Whether an outcome is a failure. -/
def Outcome.isFailed : Outcome → Bool
  | .failed _ => true
  | _ => false

/-- Where logs are archived, and the codec that compresses them. -/
structure ArchiveWriter where
  bucket : Text
  codec : Codec

namespace ArchiveWriter

/-- The encoding that stored objects have. -/
def encoding : Text := Text.ofString "application/zstd"

/-- The writer for a bucket. -/
def ofBucket [Platform] (bucket : Text) : ArchiveWriter := ⟨bucket, Platform.codec⟩

/-- The key of an object. -/
def key (source id : Text) : Text := source ++ Text.ofString "/" ++ id ++ Text.ofString ".json.zst"

/-- A fresh key for a source. -/
def freshKey {σ : Type} (services : Services σ) (source : Text) : Act σ Text := do
  return key source (← Act.ask services.freshId)

/-- What the journal calls a fault that belongs to the outcome; none for any other fault. -/
def errorLine? (key : Text) (fault : Fault) : Option Line :=
  match fault.family with
  | .compression => some ⟨.error, .archive,
      Text.ofString "Error compressing data for " ++ key ++ Text.ofString ": " ++ fault.message⟩
  | .storage => some ⟨.error, .archive,
      Text.ofString "Error putting " ++ key ++ Text.ofString " to S3: " ++ fault.message⟩
  | _ => none

variable {σ : Type}

/-- Compresses logs and stores them. -/
def put (w : ArchiveWriter) (services : Services σ) (key : Text) (data : Bytes) : Act σ Unit := do
  let body ← liftM (w.codec.compress data)
  Act.demand (services.store ⟨w.bucket, key, encoding, body⟩)

/-- Stores logs under a key; the faults that belong to the outcome end up in it. -/
def archiveAs (w : ArchiveWriter) (services : Services σ) (source key : Text) (data : Bytes) : Act σ Outcome := do
  match ← Act.attempt (w.put services key data) with
  | .ok () => return .archived data.length key
  | .error fault =>
    match errorLine? key fault with
    | some line => do
      Act.write [line]
      return .failed (.archive source key fault)
    | none => throw fault

/-- Archives the logs of a source, if there are any. -/
def archive (w : ArchiveWriter) (services : Services σ) (data : Bytes) (source : Text) : Act σ Outcome := do
  if data.isEmpty then
    Act.note .info .archive (Text.ofString "No new data for log_source: " ++ source)
    return .noNewData
  Act.note .info .archive (Text.ofString "Uploading data for " ++ source)
  let key ← freshKey services source
  Act.note .info .archive (Text.ofString "Writing to s3://" ++ w.bucket ++ Text.ofString "/" ++ key)
  w.archiveAs services source key data

end ArchiveWriter

end LogHarvest
