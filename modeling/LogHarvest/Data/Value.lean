import LogHarvest.Calendar.Moment
import LogHarvest.Json.Basic

/-!
# Values of a configuration file

What a YAML document can say: everything that JSON has, and besides bytes, dates, moments, pairs and sets, with keys
of any scalar kind. A file may name a container inside itself; `enclosing n m` stands there for the container `n`
levels below the outermost one, which is a map if `m` says so, so that a value stays finite.
-/

namespace LogHarvest

/-- A value of a configuration file. -/
inductive Value
  | null
  | bool (b : Bool)
  | int (n : Int)
  | float (x : Binary64)
  | text (t : Text)
  | bytes (bs : List UInt8)
  | date (d : Date)
  | moment (m : Moment)
  | list (items : List Value)
  | pair (first second : Value)
  | set (items : List Value)
  | map (entries : List (Value × Value))
  | enclosing (levels : Nat) (isMap : Bool)
deriving Repr, Inhabited

namespace Value

mutual

/-- The value that a JSON value denotes. -/
def ofJson : Json → Value
  | .null => null
  | .bool b => bool b
  | .int n => int n
  | .float x => float x
  | .string t => text t
  | .array items => list (ofItems items)
  | .object members => map (ofMembers members)

/-- The values of items. -/
def ofItems : List Json → List Value
  | [] => []
  | v :: rest => ofJson v :: ofItems rest

/-- The entries of members. -/
def ofMembers : List (Text × Json) → List (Value × Value)
  | [] => []
  | (name, v) :: rest => (text name, ofJson v) :: ofMembers rest

end

/-- The name of the kind of a value, as error texts give it. -/
def kindName : Value → Text
  | null => Text.ofString "NoneType"
  | bool _ => Text.ofString "bool"
  | int _ => Text.ofString "int"
  | float _ => Text.ofString "float"
  | text _ => Text.ofString "str"
  | bytes _ => Text.ofString "bytes"
  | date _ => Text.ofString "date"
  | moment _ => Text.ofString "datetime"
  | list _ | enclosing _ false => Text.ofString "list"
  | pair .. => Text.ofString "tuple"
  | set _ => Text.ofString "set"
  | map _ | enclosing _ true => Text.ofString "dict"

/-- A number of any kind as an exact one: truth counts as one, and an integral float as an integer. -/
inductive Number
  | whole (n : Int)
  | other (x : Binary64)
deriving DecidableEq

/-- The number that a value is, if it is one. -/
def number? : Value → Option Number
  | bool b => some (.whole (if b then 1 else 0))
  | int n => some (.whole n)
  | float x => some (match x.toInt? with
    | some n => .whole n
    | none => .other x)
  | _ => none

/-- Whether two keys of a map are the same. Numbers of all kinds are compared by value, moments with an offset by the
instant they name. -/
def sameKey (a b : Value) : Bool :=
  match number? a, number? b with
  | some x, some y => x == y
  | none, none => match a, b with
    | null, null => true
    | text s, text t => s == t
    | bytes s, bytes t => s == t
    | date d, date e => d == e
    | moment m, moment n => m.offset.isSome == n.offset.isSome && m.toInstant == n.toInstant
    | _, _ => false
  | _, _ => false

/-- Whether a value can be a key. -/
def isKey : Value → Bool
  | list _ | set _ | map _ | enclosing .. => false
  | _ => true

/-- The entries with `key` set to `value`: a known key keeps its place and its form, a new one goes to the end. -/
def put (entries : List (Value × Value)) (key value : Value) : List (Value × Value) :=
  match entries with
  | [] => [(key, value)]
  | e :: rest => if sameKey e.1 key then (e.1, value) :: rest else e :: put rest key value

/-- The value of a text key. -/
def find? (entries : List (Value × Value)) (name : Text) : Option Value :=
  (entries.find? fun e => sameKey e.1 (text name)).map (·.2)

end Value

end LogHarvest
