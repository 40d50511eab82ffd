import LogHarvest.Json.Basic
import LogHarvest.Json.Fault
import LogHarvest.Text.Named

/-!
# Reading JSON

The reader follows the grammar from left to right and stops at the first problem. Beyond the grammar it takes `NaN`,
`Infinity` and `-Infinity`, and escapes of lone halves.

Each step returns what is left of its text together with a proof that this is shorter, so the recursion ends on the
length of the text. The depth of nesting is bounded on its own: `room` counts the levels that may still be opened.
Places are counted from the end while reading, since only the rest of the text is at hand.
-/

namespace LogHarvest.Json

/-- How far the reader goes. Two hundred levels of nesting are always read. -/
class Limits where
  /-- How many levels of nesting the reader follows. -/
  depthLimit : Nat
  enough : 200 ≤ depthLimit

export Limits (depthLimit)

theorem one_le_depthLimit [Limits] : 1 ≤ depthLimit := Nat.le_trans (by decide) Limits.enough

/-- Why the reading stopped: a problem with this many symbols left, or one of the other faults. -/
inductive Stop
  | problem (problem : Problem) (left : Nat)
  | tooLong (digits : Nat)
  | tooDeep (container : Container)
deriving DecidableEq, Repr

/-- The fault of a whole text at which the reading stopped. -/
def Stop.fault (text : Text) : Stop → Fault
  | problem p left => .malformed p (.at text (text.length - left))
  | tooLong digits => .tooLong digits
  | tooDeep container => .tooDeep container

/-! ## Blanks -/

/-- White space between tokens: space, tab, line feed and carriage return. -/
def isSpace (s : Symbol) : Bool :=
  s = .char ' ' || s = .char '\t' || s = .char '\n' || s = .char '\r'

/-- The text behind leading white space. -/
def dropSpace (t : Text) : Text := t.dropWhile isSpace

theorem length_dropSpace_le (t : Text) : (dropSpace t).length ≤ t.length :=
  (List.dropWhile_sublist _).length_le

/-! ## Strings -/

/-- The number that four hexadecimal digits spell. -/
def hexValue (a b c d : Symbol) : Option Nat :=
  match a.hex?, b.hex?, c.hex?, d.hex? with
  | some a, some b, some c, some d => some (((a * 16 + b) * 16 + c) * 16 + d)
  | _, _, _, _ => none

/-- The symbol of a short escape. -/
def shortEscape : Symbol → Option Symbol
  | .char '"' => some (.char '"')
  | .char '\\' => some (.char '\\')
  | .char '/' => some (.char '/')
  | .char 'b' => some (.char '\x08')
  | .char 'f' => some (.char '\x0c')
  | .char 'n' => some (.char '\n')
  | .char 'r' => some (.char '\r')
  | .char 't' => some (.char '\t')
  | _ => none

/-- A piece of a string: a symbol, or a code unit written by number. -/
inductive Piece
  | plain (s : Symbol)
  | unit (n : Nat)
deriving DecidableEq, Repr

/-- The symbol of a unit that stands for itself. -/
def unitSymbol (n : Nat) : Symbol := (Symbol.ofCode? n).getD (.char '\x00')

/-- The character of a high and a low unit. -/
def pairSymbol (high low : Nat) : Symbol := .char (Char.ofNat (0x10000 + (high - 0xD800) * 0x400 + (low - 0xDC00)))

/-- The text of the pieces: a high unit directly before a low one makes one character with it. -/
def joinPieces : List Piece → Text
  | [] => []
  | .plain s :: r => s :: joinPieces r
  | .unit high :: .unit low :: r =>
    if 0xD800 ≤ high ∧ high < 0xDC00 ∧ 0xDC00 ≤ low ∧ low < 0xE000 then pairSymbol high low :: joinPieces r
    else unitSymbol high :: joinPieces (.unit low :: r)
  | .unit n :: r => unitSymbol n :: joinPieces r

/-- The rest of a string behind its opening quote, up to its closing one; `start` is how much was left at the opening
quote. An escape by number needs its four digits and something behind them. -/
def readPieces (start : Nat) : Text → Except Stop (List Piece × Text)
  | [] => .error (.problem .unterminated start)
  | .char '"' :: r => .ok ([], r)
  | .char '\\' :: .char 'u' :: a :: b :: c :: d :: next :: r =>
    match hexValue a b c d with
    | none => .error (.problem .numberEscape (r.length + 6))
    | some n =>
      match readPieces start (next :: r) with
      | .error e => .error e
      | .ok (pieces, rest) => .ok (.unit n :: pieces, rest)
  | .char '\\' :: s :: r =>
    if s = .char 'u' then .error (.problem .numberEscape (r.length + 1))
    else match shortEscape s with
      | none => .error (.problem .escape (r.length + 2))
      | some e =>
        match readPieces start r with
        | .error e => .error e
        | .ok (pieces, rest) => .ok (.plain e :: pieces, rest)
  | [.char '\\'] => .error (.problem .unterminated start)
  | s :: r =>
    if s.code < 0x20 then .error (.problem .control (r.length + 1))
    else match readPieces start r with
      | .error e => .error e
      | .ok (pieces, rest) => .ok (.plain s :: pieces, rest)

theorem length_readPieces_lt {start : Nat} {s r : Text} {pieces : List Piece}
    (h : readPieces start s = .ok (pieces, r)) : r.length < s.length := by
  fun_induction readPieces start s generalizing pieces r with
  | case5 a b c d next r₀ n _ inner rest hr ih =>
    have := ih hr
    simp only [Except.ok.injEq, Prod.mk.injEq, List.length_cons] at h this ⊢
    rw [← h.2]
    omega
  | _ => grind

/-- A string behind its opening quote. -/
def readString (start : Nat) (s : Text) : Except Stop (Text × Text) :=
  match readPieces start s with
  | .error e => .error e
  | .ok (pieces, r) => .ok (joinPieces pieces, r)

theorem length_readString_lt {start : Nat} {s r t : Text} (h : readString start s = .ok (t, r)) :
    r.length < s.length := by
  unfold readString at h
  split at h
  · simp at h
  · next pieces rest hp =>
    have := length_readPieces_lt hp
    simp only [Except.ok.injEq, Prod.mk.injEq] at h
    exact h.2 ▸ this

/-! ## Numbers and words -/

/-- Whether the symbol is an ASCII digit. -/
def isDigit (s : Symbol) : Bool := s.digit?.isSome

/-- The number that ASCII digits spell. -/
def digitsValue (t : Text) : Nat := t.foldl (fun n s => n * 10 + s.digit?.getD 0) 0

/-- The digits before the point: a lone zero, or digits that do not begin with one. -/
def wholeDigits : Text → Text
  | .char '0' :: _ => [.char '0']
  | t => t.takeWhile isDigit

/-- The digits of a fraction at the start of the text. A point without digits is no fraction. -/
def fractionDigits : Text → Text
  | .char '.' :: r => r.takeWhile isDigit
  | _ => []

/-- The sign and the digits of an exponent at the start of the text, and how long it is. Without digits it is none. -/
def exponentPart (t : Text) : Option (Bool × Text × Nat) :=
  let digits (negative : Bool) (skipped : Nat) (r : Text) :=
    let ds := r.takeWhile isDigit
    if ds.isEmpty then none else some (negative, ds, skipped + ds.length)
  match t with
  | .char 'e' :: .char '-' :: r | .char 'E' :: .char '-' :: r => digits true 2 r
  | .char 'e' :: .char '+' :: r | .char 'E' :: .char '+' :: r => digits false 2 r
  | .char 'e' :: r | .char 'E' :: r => digits false 1 r
  | _ => none

/-- The value of a number given its parts: an integer if there is neither fraction nor exponent. -/
def numberValue (negative : Bool) (whole fraction : Text) (exponent : Option (Bool × Text × Nat)) :
    Except Stop Json :=
  if fraction.isEmpty && exponent.isNone then
    if Integer.digitLimit < whole.length then .error (.tooLong whole.length)
    else
      let n : Int := digitsValue whole
      .ok (.int (if negative then -n else n))
  else
    let shift : Int := match exponent with
      | some (true, ds, _) => -(digitsValue ds : Int)
      | some (false, ds, _) => digitsValue ds
      | none => 0
    .ok (.float (Binary64.ofDecimal negative (digitsValue (whole ++ fraction)) (shift - fraction.length)))

/-- A number at the start of the text and how long it is. -/
def readNumber (t : Text) : Option (Except Stop Json × Nat) :=
  let (negative, sign, body) := match t with
    | .char '-' :: r => (true, 1, r)
    | r => (false, 0, r)
  let whole := wholeDigits body
  if whole.isEmpty then none else
  let afterWhole := body.drop whole.length
  let fraction := fractionDigits afterWhole
  let fractionLength := if fraction.isEmpty then 0 else fraction.length + 1
  let exponent := exponentPart (afterWhole.drop fractionLength)
  let exponentLength := match exponent with
    | some (_, _, n) => n
    | none => 0
  some (numberValue negative whole fraction exponent, sign + whole.length + fractionLength + exponentLength)

/-- The words that stand for a value. -/
def words : List (Text × Json) :=
  [(Text.ofString "null", .null), (Text.ofString "true", .bool true), (Text.ofString "false", .bool false),
    (Text.ofString "NaN", .float .nan), (Text.ofString "Infinity", .float (.infinite false)),
    (Text.ofString "-Infinity", .float (.infinite true))]

/-- A word or a number at the start of the text and how long it is. -/
def readScalar (t : Text) : Option (Except Stop Json × Nat) :=
  match words.find? fun w => t.startsWith w.1 with
  | some w => some (.ok w.2, w.1.length)
  | none => readNumber t

/-! ## Values -/

/-- What is left of `s` once something has been read. -/
abbrev Rest (s : Text) := { r : Text // r.length < s.length }

mutual

/-- The value at the start of the text. -/
def readValue (room : Nat) (s : Text) : Except Stop (Json × Rest s) :=
  match s with
  | [] => .error (.problem .value 0)
  | .char '"' :: r =>
    match h : readString (r.length + 1) r with
    | .error e => .error e
    | .ok (t, rest) => .ok (.string t, ⟨rest, by have := length_readString_lt h; simp only [List.length_cons]; omega⟩)
  | .char '[' :: r =>
    match room with
    | 0 => .error (.tooDeep .array)
    | room + 1 =>
      match hs : dropSpace r with
      | .char ']' :: rest => .ok (.array [], ⟨rest, by
          have := length_dropSpace_le r; simp only [hs, List.length_cons] at this ⊢; omega⟩)
      | inner =>
        match readItems room inner with
        | .error e => .error e
        | .ok (items, ⟨rest, h⟩) => .ok (.array items, ⟨rest, by
          have := length_dropSpace_le r; simp only [hs, List.length_cons] at this ⊢; omega⟩)
  | .char '{' :: r =>
    match room with
    | 0 => .error (.tooDeep .object)
    | room + 1 =>
      match hs : dropSpace r with
      | .char '}' :: rest => .ok (.object [], ⟨rest, by
          have := length_dropSpace_le r; simp only [hs, List.length_cons] at this ⊢; omega⟩)
      | inner =>
        match readMembers room inner with
        | .error e => .error e
        | .ok (members, ⟨rest, h⟩) => .ok (.object (lastNamed members), ⟨rest, by
          have := length_dropSpace_le r; simp only [hs, List.length_cons] at this ⊢; omega⟩)
  | c :: r =>
    match readScalar (c :: r) with
    | some (value, n + 1) =>
      match value with
      | .error e => .error e
      | .ok v => .ok (v, ⟨r.drop n, by simp only [List.length_drop, List.length_cons]; omega⟩)
    | _ => .error (.problem .value (r.length + 1))
termination_by (s.length, 0)
decreasing_by
  all_goals
    have := length_dropSpace_le r
    simp only [hs, List.length_cons] at this ⊢
    simp only [Prod.lex_def]
    omega

/-- The items of an array from the first one on, and the closing bracket. -/
def readItems (room : Nat) (s : Text) : Except Stop (List Json × Rest s) :=
  match readValue room s with
  | .error e => .error e
  | .ok (v, ⟨r, h⟩) =>
    match hs : dropSpace r with
    | .char ']' :: rest => .ok ([v], ⟨rest, by
        have := length_dropSpace_le r; simp only [hs, List.length_cons] at this; omega⟩)
    | .char ',' :: more =>
      match readItems room (dropSpace more) with
      | .error e => .error e
      | .ok (vs, ⟨rest, h'⟩) => .ok (v :: vs, ⟨rest, by
        have := length_dropSpace_le r; have := length_dropSpace_le more
        simp only [hs, List.length_cons] at *; omega⟩)
    | other => .error (.problem .comma other.length)
termination_by (s.length, 1)
decreasing_by
  · exact Prod.Lex.right _ (by decide)
  · have := length_dropSpace_le r
    have := length_dropSpace_le more
    simp only [hs, List.length_cons] at *
    simp only [Prod.lex_def]
    omega

/-- The members of an object from the first one on, and the closing brace. -/
def readMembers (room : Nat) (s : Text) : Except Stop (List (Text × Json) × Rest s) :=
  match s with
  | .char '"' :: r =>
    match hn : readString (r.length + 1) r with
    | .error e => .error e
    | .ok (name, afterName) =>
      match hc : dropSpace afterName with
      | .char ':' :: afterColon =>
        match readValue room (dropSpace afterColon) with
        | .error e => .error e
        | .ok (v, ⟨afterValue, hv⟩) =>
          match hs : dropSpace afterValue with
          | .char '}' :: rest => .ok ([(name, v)], ⟨rest, by
              have := length_readString_lt hn; have := length_dropSpace_le afterName
              have := length_dropSpace_le afterColon; have := length_dropSpace_le afterValue
              simp only [hc, hs, List.length_cons] at *; omega⟩)
          | .char ',' :: more =>
            match readMembers room (dropSpace more) with
            | .error e => .error e
            | .ok (ms, ⟨rest, h'⟩) => .ok ((name, v) :: ms, ⟨rest, by
              have := length_readString_lt hn; have := length_dropSpace_le afterName
              have := length_dropSpace_le afterColon; have := length_dropSpace_le afterValue
              have := length_dropSpace_le more
              simp only [hc, hs, List.length_cons] at *; omega⟩)
          | other => .error (.problem .comma other.length)
      | other => .error (.problem .colon other.length)
  | other => .error (.problem .name other.length)
termination_by (s.length, 1)
decreasing_by
  · have := length_readString_lt hn
    have := length_dropSpace_le afterName
    have := length_dropSpace_le afterColon
    simp only [hc, List.length_cons] at *
    simp only [Prod.lex_def]
    omega
  · have := length_readString_lt hn
    have := length_dropSpace_le afterName
    have := length_dropSpace_le afterColon
    have := length_dropSpace_le afterValue
    have := length_dropSpace_le more
    simp only [hc, hs, List.length_cons] at *
    simp only [Prod.lex_def]
    omega

end

/-! ## Whole texts -/

/-- Reads a text that holds one value and blanks around it. -/
def readDocument [Limits] (text : Text) : Except Stop Json :=
  match text with
  | .char '\ufeff' :: _ => .error (.problem .byteOrderMark text.length)
  | _ =>
    match readValue depthLimit (dropSpace text) with
    | .error e => .error e
    | .ok (v, ⟨r, _⟩) =>
      match dropSpace r with
      | [] => .ok v
      | other => .error (.problem .extra other.length)

/-- Reads a JSON text. -/
def read [Limits] (text : Text) : Except Fault Json :=
  match readDocument text with
  | .ok v => .ok v
  | .error e => .error (e.fault text)

end LogHarvest.Json
