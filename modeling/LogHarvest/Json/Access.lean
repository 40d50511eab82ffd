import LogHarvest.Fault
import LogHarvest.Number.Integer

/-!
# Looking into JSON

Answers of services are JSON of which nothing is promised. What is looked for and not there is a fault that names the
kind of value that was found instead.
-/

namespace LogHarvest.Json

/-- The member that an object must have. -/
def demand (v : Json) (name : String) : Except LogHarvest.Fault Json :=
  match v with
  | object members =>
    match find? members name with
    | some w => .ok w
    | none => .error (.missingKey name)
  | array _ | string _ => .error (.badIndex v.kindName)
  | _ => .error (.notIndexable v.kindName)

/-- A member that an object may have. -/
def member? (v : Json) (name : String) : Except LogHarvest.Fault (Option Json) :=
  match v with
  | object members => .ok (find? members name)
  | _ => .error (.noMember v.kindName (Text.ofString "get"))

/-- What a value consists of: items, names or symbols. -/
def parts (v : Json) : Except LogHarvest.Fault (List Json) :=
  match v with
  | array items => .ok items
  | object members => .ok (members.map fun m => string m.1)
  | string t => .ok (t.map fun s => string [s])
  | _ => .error (.notIterable v.kindName)

/-- Whether a value is the given text. -/
def isText (v : Json) (name : Text) : Bool :=
  match v with
  | string t => t == name
  | _ => false

/-- Whether a name is an item or a member of a value, or stands in it. -/
def mentions (v : Json) (name : String) : Except LogHarvest.Fault Bool :=
  match v with
  | array items => .ok (items.any fun item => isText item name)
  | object members => .ok (find? members name).isSome
  | string t => .ok (Text.occurs name t)
  | _ => .error (.notContainer v.kindName)

/-- The integer that a value stands for: a number cut off behind the point, or a text that spells one. -/
def toInteger (v : Json) : Except LogHarvest.Fault Int :=
  match v with
  | int n => .ok n
  | bool b => .ok (if b then 1 else 0)
  | string t => (Integer.read t).mapError LogHarvest.Fault.integer
  | float x =>
    match x.truncate? with
    | some n => .ok n
    | none => .error (.notFinite (x == .nan))
  | _ => .error (.notNumber v.kindName)

end LogHarvest.Json
