import LogHarvest.Json.Basic
import LogHarvest.Number.Shortest

/-!
# Printing JSON

One line of ASCII: `", "` between items, `": "` behind a name, and an escape for every character outside the
printable ASCII range. A character beyond `0xFFFF` is written as a pair of escapes, a lone half as one.
-/

namespace LogHarvest.Json

/-- An escape by number. -/
def unitEscape (n : Nat) : Text := Text.ofString "\\u" ++ Text.hex 4 n

/-- One symbol between the double quotes. -/
def printSymbol : Symbol → Text
  | .char '"' => Text.ofString "\\\""
  | .char '\\' => Text.ofString "\\\\"
  | .char '\n' => Text.ofString "\\n"
  | .char '\r' => Text.ofString "\\r"
  | .char '\t' => Text.ofString "\\t"
  | .char '\x0c' => Text.ofString "\\f"
  | .char '\x08' => Text.ofString "\\b"
  | s =>
    let n := s.code
    if 0x20 ≤ n ∧ n ≤ 0x7E then [s]
    else if n < 0x10000 then unitEscape n
    else unitEscape (0xD800 + (n - 0x10000) / 0x400) ++ unitEscape (0xDC00 + (n - 0x10000) % 0x400)

/-- A string with its quotes. -/
def printString (t : Text) : Text := .char '"' :: t.flatMap printSymbol ++ [.char '"']

/-- A number that is not an integer. The three special ones have names. -/
def printFloat : Binary64 → Text
  | .nan => Text.ofString "NaN"
  | .infinite true => Text.ofString "-Infinity"
  | .infinite false => Text.ofString "Infinity"
  | x => x.render

mutual

/-- The text of a value. -/
def print : Json → Text
  | null => Text.ofString "null"
  | bool true => Text.ofString "true"
  | bool false => Text.ofString "false"
  | int n => Text.ofInt n
  | float x => printFloat x
  | string t => printString t
  | array items => .char '[' :: printItems items
  | object members => .char '{' :: printMembers members

/-- The items of an array and its closing bracket. -/
def printItems : List Json → Text
  | [] => [.char ']']
  | [v] => print v ++ [.char ']']
  | v :: w :: rest => print v ++ Text.ofString ", " ++ printItems (w :: rest)

/-- The members of an object and its closing brace. -/
def printMembers : List (Text × Json) → Text
  | [] => [.char '}']
  | [m] => printString m.1 ++ Text.ofString ": " ++ print m.2 ++ [.char '}']
  | m :: n :: rest =>
    printString m.1 ++ Text.ofString ": " ++ print m.2 ++ Text.ofString ", " ++ printMembers (n :: rest)

end

end LogHarvest.Json
