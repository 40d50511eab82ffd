import LogHarvest.Text.Basic
import LogHarvest.Yaml.Fault

/-!
# A place in a YAML text

The cursor holds the rest of the text and knows its line and column. Whatever looks at the text runs as a `Scan`: it
moves the cursor and may give up with a fault.

Loops over the text repeat a step. A step that wants another round has taken a character, so the number of characters
left bounds the rounds; `repeatScan` takes its bound from there and shows none.
-/

namespace LogHarvest.Yaml

/-! ## Characters -/

/-- A line break. Carriage returns are gone when a file has been read as text. -/
def isBreak (c : Char) : Bool := c = '\n' || c = '\x85' || c = '\u2028' || c = '\u2029'

/-- Whether a character is a line break, a blank or a tab. -/
def isWhite (c : Char) : Bool := c = ' ' || c = '\t' || isBreak c

/-- A letter, digit, hyphen or underscore of ASCII: what names of anchors, handles and directives are made of. -/
def isNameChar (c : Char) : Bool := c.isAlphanum || c = '-' || c = '_'

/-- What the address of a tag is made of, escapes included. -/
def isAddressChar (c : Char) : Bool := c.isAlphanum || "-;/?:@&=+$,_.!~*'()[]%".toList.contains c

/-- What sets off the items of a flow collection, and ends a plain scalar in it. -/
def flowMarks : List Char := [',', '[', ']', '\x7b', '\x7d']

/-- The characters that mean something at the beginning of a token. -/
def indicators : List Char := flowMarks ++ "-?:#&*!|>'\"%@\x60".toList

/-- The characters that a document may contain. -/
def isAllowed (c : Char) : Bool :=
  let n := c.toNat
  n = 0x09 || n = 0x0A || n = 0x0D || (0x20 ≤ n && n ≤ 0x7E) || n = 0x85 || (0xA0 ≤ n && n ≤ 0xD7FF) ||
    (0xE000 ≤ n && n ≤ 0xFFFD) || 0x10000 ≤ n

/-! ## The cursor -/

/-- A place in a text; `left` is how many characters follow. -/
structure Cursor where
  rest : List Char
  left : Nat
  index : Nat
  line : Nat
  column : Nat

/-- The beginning of a text. -/
def Cursor.start (text : List Char) : Cursor := ⟨text, text.length, 0, 0, 0⟩

/-- The place behind the next character. A byte order mark takes no column. -/
def Cursor.next (c : Cursor) : Cursor :=
  match c.rest with
  | [] => c
  | ch :: rest =>
    if isBreak ch then ⟨rest, c.left - 1, c.index + 1, c.line + 1, 0⟩
    else ⟨rest, c.left - 1, c.index + 1, c.line, if ch = '\ufeff' then c.column else c.column + 1⟩

/-- The place `n` characters further. -/
def Cursor.skip (c : Cursor) (n : Nat) : Cursor := n.repeat Cursor.next c

/-- A look at the text that moves the cursor. -/
abbrev Scan := StateT Cursor (Except Fault)

/-- The character `n` places ahead, if the text goes so far. -/
def peekAt (n : Nat) : Scan (Option Char) := return (← get).rest[n]?

/-- The next character. -/
def peek : Scan (Option Char) := return (← get).rest.head?

/-- Moves behind the next `n` characters. -/
def forward (n : Nat) : Scan Unit := modify (·.skip n)

/-- Whether the next character satisfies `p`; at the end of the text none does. -/
def nextIs (p : Char → Bool) : Scan Bool := return (← peek).any p

/-- Whether the next character satisfies `p` or the text ends. -/
def nextIsOrEnd (p : Char → Bool) : Scan Bool := return (← peek).all p

/-- Takes characters while they satisfy `p`. -/
def takeWhile (p : Char → Bool) : Scan (List Char) := do
  let taken := (← get).rest.takeWhile p
  forward taken.length
  return taken

/-- Takes a line break and says what it counts as: the two special separators stay, every other is a line feed. -/
def takeBreak : Scan (Option Char) := do
  match ← peek with
  | some c =>
    if isBreak c then
      forward 1
      return some (if c = '\x85' then '\n' else c)
    else return none
  | none => return none

/-- Goes on if `ok` holds. -/
def require (ok : Bool) : Scan Unit := if ok then pure () else throw .token

/-- Repeats a step at most so many rounds. -/
def repeatStep {α β : Type} (step : α → Scan (α ⊕ β)) : Nat → α → Scan β
  | 0, _ => throw .token
  | n + 1, a => do
    match ← step a with
    | .inl a => repeatStep step n a
    | .inr b => return b

/-- Repeats a step until it has a result. -/
def repeatScan {α β : Type} (step : α → Scan (α ⊕ β)) (a : α) : Scan β := do
  repeatStep step ((← get).left + 2) a

/-- Whether the text at the cursor begins with three marks `c` and white space or the end behind them. -/
def atDocumentMark (c : Char) : Scan Bool := do
  match (← get).rest with
  | a :: b :: d :: r => return a = c && b = c && d = c && r.head?.all isWhite
  | _ => return false

/-- Whether a line that begins here would end or start a document. -/
def atSeparator : Scan Bool := do
  if ← atDocumentMark '-' then return true
  atDocumentMark '.'

end LogHarvest.Yaml
