import LogHarvest.Calendar.Date
import LogHarvest.Number.Integer

/-!
# Faults of a YAML document

Five faults say at which stage the text stopped being a document; their places are not kept. The others come from a
scalar that is tagged or written as something whose value it does not spell.
-/

namespace LogHarvest.Yaml

/-- Why a document has no value. -/
inductive Fault
  | character
  | token
  | grammar
  | graph
  | meaning
  | integer (fault : Integer.Fault)
  | real (text : Text)
  | realTooLarge
  | calendar (fault : Calendar.Fault)
  | emptyNumber
  | truthWord (word : Text)
  | timestamp
  | timestampInMapping
  | codePoint
  | codePointTooLarge
  | tooDeep
deriving DecidableEq, Repr

/-- The name of the kind of a fault. -/
def Fault.kind : Fault → Text
  | character => Text.ofString "ReaderError"
  | token => Text.ofString "ScannerError"
  | grammar => Text.ofString "ParserError"
  | graph => Text.ofString "ComposerError"
  | meaning => Text.ofString "ConstructorError"
  | integer _ | real _ | calendar _ | codePoint => Text.ofString "ValueError"
  | realTooLarge | codePointTooLarge => Text.ofString "OverflowError"
  | emptyNumber => Text.ofString "IndexError"
  | truthWord _ => Text.ofString "KeyError"
  | timestamp => Text.ofString "AttributeError"
  | timestampInMapping => Text.ofString "TypeError"
  | tooDeep => Text.ofString "RecursionError"

/-- Whether the text is no document of known meaning, as against a scalar that does not spell its value. -/
def Fault.ofDocument : Fault → Bool
  | character | token | grammar | graph | meaning => true
  | _ => false

/-- The wording of a fault. -/
def Fault.message : Fault → Text
  | integer fault => fault.message
  | real text => Text.ofString "could not convert string to float: " ++ text.quoted
  | realTooLarge => Text.ofString "int too large to convert to float"
  | calendar fault => fault.message
  | emptyNumber => Text.ofString "string index out of range"
  | truthWord word => word.quoted
  | timestamp => Text.ofString "'NoneType' object has no attribute 'groupdict'"
  | timestampInMapping => Text.ofString "expected string or bytes-like object, got 'list'"
  | codePoint => Text.ofString "chr() arg not in range(0x110000)"
  | codePointTooLarge => Text.ofString "Python int too large to convert to C int"
  | tooDeep => Text.ofString "maximum recursion depth exceeded"
  | fault => Text.ofString "<" ++ fault.kind ++ Text.ofString ">"

end LogHarvest.Yaml
