import LogHarvest.Number.Binary64
import LogHarvest.Text.Basic

/-!
# JSON values

A JSON value with integers of any size apart from binary64 numbers. The members of an object keep the order in which
their names first appeared, and a name appears once.
-/

namespace LogHarvest

/-- A JSON value. -/
inductive Json
  | null
  | bool (b : Bool)
  | int (n : Int)
  | float (x : Binary64)
  | string (t : Text)
  | array (items : List Json)
  | object (members : List (Text × Json))
deriving Repr, Inhabited

namespace Json

/-- The value of a member. -/
def find? (members : List (Text × Json)) (name : Text) : Option Json := members.lookup name

/-- The member of an object; other values have none. -/
def get? : Json → Text → Option Json
  | object members, name => find? members name
  | _, _ => none

/-- Whether the value is null. -/
def isNull : Json → Bool
  | null => true
  | _ => false

/-- The name of the kind of a value, as error texts give it. -/
def kindName : Json → Text
  | null => Text.ofString "NoneType"
  | bool _ => Text.ofString "bool"
  | int _ => Text.ofString "int"
  | float _ => Text.ofString "float"
  | string _ => Text.ofString "str"
  | array _ => Text.ofString "list"
  | object _ => Text.ofString "dict"

/-- Whether the value counts as given: null, false, zero and everything empty do not. -/
def isTruthy : Json → Bool
  | null => false
  | bool b => b
  | int n => n != 0
  | float x => !x.equals (.finite false 0 0)
  | string t => !t.isEmpty
  | array items => !items.isEmpty
  | object members => !members.isEmpty

end Json

end LogHarvest
