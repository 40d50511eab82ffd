import LogHarvest.Text.Printable

/-!
# Quoted text

The quoted form shows a text on one line. Single quotes enclose it unless the text holds a single quote and no double
one; then double quotes do. A backslash and the enclosing quote are escaped, `\n`, `\r` and `\t` are written as such,
and every other character that is not printable by its number.
-/

namespace LogHarvest.Text

/-- The quote that encloses a text. -/
def enclosing (t : Text) : Char :=
  if t.contains (.char '\'') && !t.contains (.char '"') then '"' else '\''

/-- An escape by number, of the least of the widths 2, 4 and 8 that holds it. -/
def numberEscape (n : Nat) : Text :=
  if n < 0x100 then ofString "\\x" ++ hex 2 n
  else if n < 0x10000 then ofString "\\u" ++ hex 4 n
  else ofString "\\U" ++ hex 8 n

/-- One symbol between quotes `q`. -/
def quotedSymbol (q : Char) (s : Symbol) : Text :=
  match s with
  | .char '\\' => "\\\\"
  | .char '\n' => "\\n"
  | .char '\r' => "\\r"
  | .char '\t' => "\\t"
  | s =>
    if s = .char q then [.char '\\', s]
    else if isPrintable s then [s]
    else numberEscape s.code

/-- The quoted form. -/
def quoted (t : Text) : Text :=
  let q := enclosing t
  .char q :: t.flatMap (quotedSymbol q) ++ [.char q]

end LogHarvest.Text
