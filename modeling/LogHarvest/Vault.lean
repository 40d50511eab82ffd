import LogHarvest.Json.Access
import LogHarvest.Json.Reader
import LogHarvest.Scene

/-!
# Secrets

A secret is a mapping of texts. A stored string that is the JSON text of an object stands for its members, each value
as it is displayed; any other string is the secret `value`. A secret is fetched once and kept from then on; a fetch
that fails leaves nothing behind.
-/

namespace LogHarvest.Vault

/-- The secret of a string that is no JSON object. -/
def plain (stored : Text) : Secret := [(Text.ofString "value", stored)]

/-- The secret that a stored string stands for. The limits of the JSON reader are faults. -/
def ofStored [Json.Limits] (stored : Text) : Except Fault Secret :=
  match Json.read stored with
  | .ok (.object members) => .ok (members.map fun m => (m.1, m.2.display))
  | .ok _ => .ok (plain stored)
  | .error (.malformed ..) => .ok (plain stored)
  | .error fault => .error (.json fault)

/-- The secret in an answer of the store of secrets. -/
def ofAnswer [Json.Limits] (arn : Text) (answer : Json) : Except Fault Secret := do
  match (← answer.member? "SecretString").getD .null with
  | .null => .error (.noSecretString arn)
  | .string stored => ofStored stored
  | other => .error (.notJsonText other.kindName)

variable [Json.Limits] {σ : Type}

/-- Fetches a secret and keeps it. -/
def fetch (services : Services σ) (arn : Text) : Act σ Secret := do
  Act.note .debug .secrets (Text.ofString "fetching secret " ++ arn)
  let answer ← Act.demand (services.secret arn)
  let secret ← liftM (ofAnswer arn answer)
  modify fun scene => { scene with kept := scene.kept ++ [(arn, secret)] }
  return secret

/-- The secret of a reference. -/
def get (services : Services σ) (arn : Text) : Act σ Secret := do
  let scene ← MonadState.get
  match scene.kept.lookup arn with
  | some secret => return secret
  | none => fetch services arn

end LogHarvest.Vault
