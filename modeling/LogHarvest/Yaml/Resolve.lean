import LogHarvest.Yaml.Lexer

/-!
# The tags of plain scalars

A plain scalar without a tag means what it looks like: a truth value, a number, a date, nothing, or else a text. Each
look is a grammar of its own, written here as a function that takes the part it recognises off the front of the text;
a look fits if nothing is left, or only a last line feed.
-/

namespace LogHarvest.Yaml

namespace Tag

/-- What the tags of the standard begin with. -/
def standard : Text := Text.ofString "tag:yaml.org,2002:"

def null : Text := standard ++ Text.ofString "null"
def bool : Text := standard ++ Text.ofString "bool"
def int : Text := standard ++ Text.ofString "int"
def float : Text := standard ++ Text.ofString "float"
def timestamp : Text := standard ++ Text.ofString "timestamp"
def binary : Text := standard ++ Text.ofString "binary"
def str : Text := standard ++ Text.ofString "str"
def seq : Text := standard ++ Text.ofString "seq"
def map : Text := standard ++ Text.ofString "map"
def set : Text := standard ++ Text.ofString "set"
def omap : Text := standard ++ Text.ofString "omap"
def pairs : Text := standard ++ Text.ofString "pairs"
def merge : Text := standard ++ Text.ofString "merge"
def value : Text := standard ++ Text.ofString "value"
def sign : Text := standard ++ Text.ofString "yaml"

end Tag

/-! ## Recognisers -/

/-- Takes what it recognises off the front of a text; there may be several ways. -/
abbrev Look := Text → List Text

namespace Look

/-- Recognises nothing at all. -/
def empty : Look := fun t => [t]

/-- One symbol. -/
def one (p : Symbol → Bool) : Look
  | s :: r => if p s then [r] else []
  | [] => []

/-- One of some characters. -/
def oneOf (cs : String) : Look := one fun s => cs.toList.any fun c => s = .char c

/-- A digit. -/
def digit : Look := one fun s => s.digit?.isSome

/-- A fixed text. -/
def word (w : String) : Look := fun t =>
  let w := Text.ofString w
  if t.startsWith w then [t.drop w.length] else []

/-- First one, then the other. -/
def andThen (a b : Look) : Look := fun t => (a t).flatMap b

/-- One or the other. -/
def orElse (a b : Look) : Look := fun t => a t ++ b t

/-- With or without. -/
def maybe (a : Look) : Look := fun t => a t ++ [t]

/-- As many symbols as there are. No grammar here goes on with a symbol of the same sort. -/
def run (p : Symbol → Bool) : Look := fun t => [t.dropWhile p]

/-- At least one of the symbols. -/
def run1 (p : Symbol → Bool) : Look := andThen (one p) (run p)

/-- In sequence. -/
def all : List Look → Look
  | [] => empty
  | a :: rest => andThen a (all rest)

/-- One of several. -/
def any : List Look → Look
  | [] => fun _ => []
  | a :: rest => orElse a (any rest)

/-- One of several fixed texts. -/
def words (ws : List String) : Look := any (ws.map word)

/-- Whether the whole text looks so. A last line feed does not count. -/
def fits (a : Look) (t : Text) : Bool := (a t).any fun r => r.isEmpty || r = [.char '\n']

end Look

open Look

/-- A symbol that is one of some characters. -/
def among (cs : String) (s : Symbol) : Bool := cs.toList.any fun c => s = .char c

/-- Digits and underscores. -/
def isDigitOrBar (s : Symbol) : Bool := among "0123456789_" s

/-- The sixty parts behind a colon, at least one. -/
def sixties : Nat → Look
  | 0 => fun _ => []
  | n + 1 => andThen (all [word ":", maybe (oneOf "012345"), digit]) (orElse empty (sixties n))

/-- A truth value. -/
def looksBool : Look :=
  words ["yes", "Yes", "YES", "no", "No", "NO", "true", "True", "TRUE", "false", "False", "FALSE", "on", "On", "ON",
    "off", "Off", "OFF"]

/-- An exponent with a sign. -/
def looksExponent : Look := all [oneOf "eE", oneOf "-+", run1 fun s => s.digit?.isSome]

/-- A real number. `n` bounds the number of parts. -/
def looksFloat (n : Nat) : Look :=
  any [all [maybe (oneOf "-+"), digit, run isDigitOrBar, word ".", run isDigitOrBar, maybe looksExponent],
    all [word ".", digit, run isDigitOrBar, maybe looksExponent],
    all [maybe (oneOf "-+"), digit, run isDigitOrBar, sixties n, word ".", run isDigitOrBar],
    all [maybe (oneOf "-+"), words [".inf", ".Inf", ".INF"]],
    words [".nan", ".NaN", ".NAN"]]

/-- An integer in base two, eight, ten, sixteen or sixty. -/
def looksInt (n : Nat) : Look :=
  any [all [maybe (oneOf "-+"), word "0b", run1 (among "01_")],
    all [maybe (oneOf "-+"), word "0", run1 (among "01234567_")],
    all [maybe (oneOf "-+"), orElse (word "0") (andThen (oneOf "123456789") (run isDigitOrBar))],
    all [maybe (oneOf "-+"), word "0x", run1 (among "0123456789abcdefABCDEF_")],
    all [maybe (oneOf "-+"), oneOf "123456789", run isDigitOrBar, sixties n]]

/-- Nothing. -/
def looksNull : Look := orElse (words ["~", "null", "Null", "NULL"]) empty

/-- One or two digits. -/
def digits12 : Look := andThen digit (maybe digit)

/-- An offset from UTC, after blanks. -/
def looksOffset : Look :=
  andThen (run (among " \t"))
    (orElse (word "Z") (all [oneOf "-+", digits12, maybe (all [word ":", digit, digit])]))

/-- The time of day behind a date. -/
def looksTime : Look :=
  all [orElse (oneOf "Tt") (run1 (among " \t")), digits12, word ":", digit, digit, word ":", digit, digit,
    maybe (andThen (word ".") (run fun s => s.digit?.isSome)), maybe looksOffset]

/-- A date, or a date with a time of day. -/
def looksTimestamp : Look :=
  any [all [digit, digit, digit, digit, word "-", digit, digit, word "-", digit, digit],
    all [digit, digit, digit, digit, word "-", digits12, word "-", digits12, looksTime]]

/-- The tag of a scalar by its look. What a scalar begins with rules out most looks, but for `true`, `null` and the
like only the words themselves count anyway. -/
def Tag.resolve (t : Text) : Text :=
  let n := t.length
  if fits looksBool t then Tag.bool
  else if t ≠ [] && fits (looksFloat n) t then Tag.float
  else if fits (looksInt n) t then Tag.int
  else if fits (word "<<") t then Tag.merge
  else if t = [] || (t ≠ [.char '\n'] && fits looksNull t) then Tag.null
  else if fits looksTimestamp t then Tag.timestamp
  else if fits (word "=") t then Tag.value
  else if fits (oneOf "!&*") t then Tag.sign
  else Tag.str

end LogHarvest.Yaml
