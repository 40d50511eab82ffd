import LogHarvest.Number.Integer

/-!
# Faults of a JSON text

A text that is not JSON is told apart by what was wrong and where. Two faults are of another sort: an integer with too
many digits, and nesting beyond what the reader follows.
-/

namespace LogHarvest.Json

/-- What was wrong at some place. -/
inductive Problem
  | value
  | name
  | colon
  | comma
  | extra
  | unterminated
  | control
  | escape
  | numberEscape
  | byteOrderMark
deriving DecidableEq, Repr

/-- The wording of a problem. -/
def Problem.message : Problem → Text
  | value => Text.ofString "Expecting value"
  | name => Text.ofString "Expecting property name enclosed in double quotes"
  | colon => Text.ofString "Expecting ':' delimiter"
  | comma => Text.ofString "Expecting ',' delimiter"
  | extra => Text.ofString "Extra data"
  | unterminated => Text.ofString "Unterminated string starting at"
  | control => Text.ofString "Invalid control character at"
  | escape => Text.ofString "Invalid \\escape"
  | numberEscape => Text.ofString "Invalid \\uXXXX escape"
  | byteOrderMark => Text.ofString "Unexpected UTF-8 BOM (decode using utf-8-sig)"

/-- A place in a text: the offset counts from zero, line and column from one. -/
structure Place where
  line : Nat
  column : Nat
  offset : Nat
deriving DecidableEq, Repr

/-- The place behind the first `offset` symbols. -/
def Place.at (text : Text) (offset : Nat) : Place where
  line := (text.take offset).count (.char '\n') + 1
  column := ((text.take offset).reverse.takeWhile (· ≠ .char '\n')).length + 1
  offset := offset

/-- The container in which the nesting became too deep. -/
inductive Container
  | array
  | object
deriving DecidableEq, Repr

/-- Why a text is not read. -/
inductive Fault
  | malformed (problem : Problem) (place : Place)
  | tooLong (digits : Nat)
  | tooDeep (container : Container)
deriving DecidableEq, Repr

/-- The wording of a fault. -/
def Fault.message : Fault → Text
  | malformed problem place =>
    problem.message ++ Text.ofString ": line " ++ Text.ofNat place.line ++ Text.ofString " column " ++
      Text.ofNat place.column ++ Text.ofString " (char " ++ Text.ofNat place.offset ++ Text.ofString ")"
  | tooLong digits => (Integer.Fault.tooLong digits).message
  | tooDeep container =>
    Text.ofString "maximum recursion depth exceeded while decoding a JSON " ++
      Text.ofString (match container with
        | .array => "array"
        | .object => "object") ++
      Text.ofString " from a unicode string"

end LogHarvest.Json
