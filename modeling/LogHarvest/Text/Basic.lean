/-!
# Text

A text is a list of symbols. A symbol is a character, or one half of a surrogate pair that stands alone:
escapes such as `\ud83d` in JSON and YAML can write a half without its partner, so `String` is too small.

Texts compare by code point, and a plain `String` is read as a text wherever one is expected.
-/

namespace LogHarvest

/-- A character, or half of a surrogate pair: `half h` stands for the code point `0xD800 + h`. -/
inductive Symbol
  | char (c : Char)
  | half (h : Fin 2048)
deriving DecidableEq, Repr, Inhabited

/-- A sequence of symbols. -/
abbrev Text := List Symbol

namespace Symbol

/-- The code point. -/
def code : Symbol → Nat
  | .char c => c.toNat
  | .half h => 0xD800 + h.val

/-- The symbol of a code point, if there is one. -/
def ofCode? (n : Nat) : Option Symbol :=
  if h : 0xD800 ≤ n ∧ n < 0xE000 then some (.half ⟨n - 0xD800, by omega⟩)
  else if n < 0x110000 then some (.char (Char.ofNat n))
  else none

/-- The first half of a pair: `0xD800` to `0xDBFF`. -/
def isHigh : Symbol → Bool
  | .half h => h.val < 1024
  | .char _ => false

/-- The second half of a pair: `0xDC00` to `0xDFFF`. -/
def isLow : Symbol → Bool
  | .half h => 1024 ≤ h.val
  | .char _ => false

/-- The value of an ASCII decimal digit. -/
def digit? : Symbol → Option Nat
  | .char c => if '0' ≤ c ∧ c ≤ '9' then some (c.toNat - '0'.toNat) else none
  | .half _ => none

/-- The value of a hexadecimal digit of either case. -/
def hex? : Symbol → Option Nat
  | .char c =>
    if '0' ≤ c ∧ c ≤ '9' then some (c.toNat - '0'.toNat)
    else if 'a' ≤ c ∧ c ≤ 'f' then some (c.toNat - 'a'.toNat + 10)
    else if 'A' ≤ c ∧ c ≤ 'F' then some (c.toNat - 'A'.toNat + 10)
    else none
  | .half _ => none

/-- The symbol as a character, unless it is a half. -/
def char? : Symbol → Option Char
  | .char c => some c
  | .half _ => none

/-- ASCII letters in lower case, all else unchanged. -/
def lowerAscii : Symbol → Symbol
  | .char c => .char c.toLower
  | s => s

end Symbol

namespace Text

/-- The symbols of a string. -/
def ofString (s : String) : Text := s.toList.map Symbol.char

instance : Coe String Text := ⟨ofString⟩

/-- The same text as a string, if no half stands alone in it. -/
def toString? (t : Text) : Option String := (t.mapM Symbol.char?).map String.ofList

/-- A natural number in decimal. -/
def ofNat (n : Nat) : Text := (Nat.toDigits 10 n).map Symbol.char

/-- An integer in decimal, with a minus sign if it is negative. -/
def ofInt (n : Int) : Text :=
  if n < 0 then .char '-' :: ofNat n.natAbs else ofNat n.natAbs

/-- A number in decimal with at least `width` digits. -/
def padded (width n : Nat) : Text :=
  let digits := ofNat n
  List.replicate (width - digits.length) (.char '0') ++ digits

/-- Lower case hexadecimal with exactly `width` digits. -/
def hex (width n : Nat) : Text :=
  let digits := (Nat.toDigits 16 n).map Symbol.char
  List.replicate (width - digits.length) (.char '0') ++ digits

/-- Comparison by code point: the first difference decides, and a prefix comes first. -/
def compare : Text → Text → Ordering
  | [], [] => .eq
  | [], _ :: _ => .lt
  | _ :: _, [] => .gt
  | a :: s, b :: t => (Ord.compare a.code b.code).then (compare s t)

/-- Whether `s` comes before `t` or equals it, by code point. -/
def le (s t : Text) : Bool := compare s t != .gt

/-- The texts in order of their code points. -/
def sort (ts : List Text) : List Text := ts.mergeSort le

/-- The texts in order of their code points, each once. -/
def sortDistinct (ts : List Text) : List Text :=
  (sort ts).foldr (fun t out => if out.head? == some t then out else t :: out) []

/-- The texts one after another, `sep` between two neighbours. -/
def join (sep : Text) : List Text → Text
  | [] => []
  | [t] => t
  | t :: ts => t ++ sep ++ join sep ts

/-- Whether `t` begins with `p`. -/
def startsWith (t p : Text) : Bool := p.isPrefixOf t

/-- Whether `p` stands somewhere in a text. -/
def occurs (p : Text) : Text → Bool
  | [] => p.isEmpty
  | s :: r => startsWith (s :: r) p || occurs p r

/-- The ASCII letters in lower case. -/
def lowerAscii (t : Text) : Text := t.map Symbol.lowerAscii

end Text

end LogHarvest
