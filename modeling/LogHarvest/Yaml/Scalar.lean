import LogHarvest.Yaml.Token

/-!
# Scalars

The three ways to write a scalar: plain, between quotes, and as a block of lines. A line break inside a scalar is
folded: alone it counts as a blank, and of several the first is dropped.
-/

namespace LogHarvest.Yaml

/-- The symbols that a folded line break leaves, given the breaks that follow it. A special separator stays. -/
def foldBreak (first : Char) (more : List Char) : Text :=
  if first ≠ '\n' then textOf (first :: more)
  else if more.isEmpty then textOf [' '] else textOf more

/-! ## Between quotes -/

/-- What the letter of an escape stands for. -/
def escapeSymbol : Char → Option Char
  | '0' => some '\x00'
  | 'a' => some '\x07'
  | 'b' => some '\x08'
  | 't' | '\t' => some '\t'
  | 'n' => some '\n'
  | 'v' => some '\x0b'
  | 'f' => some '\x0c'
  | 'r' => some '\r'
  | 'e' => some '\x1b'
  | ' ' => some ' '
  | '"' => some '"'
  | '\\' => some '\\'
  | '/' => some '/'
  | 'N' => some '\x85'
  | '_' => some '\xa0'
  | 'L' => some '\u2028'
  | 'P' => some '\u2029'
  | _ => none

/-- How many digits the letter of an escape by number asks for. -/
def escapeWidth : Char → Option Nat
  | 'x' => some 2
  | 'u' => some 4
  | 'U' => some 8
  | _ => none

/-- Line breaks and the blanks around them. Between quotes no line may look like a document mark. -/
def scanQuotedBreaks : Scan (List Char) :=
  repeatScan (fun (breaks : List Char) => do
    require (!(← atSeparator))
    let _ ← takeWhile fun c => c = ' ' || c = '\t'
    match ← takeBreak with
    | some b => return .inl (breaks ++ [b])
    | none => return .inr breaks) []

/-- The symbol of an escape by number. -/
def numberedSymbol (n : Nat) : Except Fault Symbol :=
  match Symbol.ofCode? n with
  | some s => .ok s
  | none => .error (if n < 0x80000000 then .codePoint else .codePointTooLarge)

/-- What an escape leaves. A break behind the backslash vanishes with the blanks that follow. -/
def scanEscape : Scan Text := do
  forward 1
  match ← peek with
  | none => throw .token
  | some c =>
    match escapeSymbol c, escapeWidth c with
    | some s, _ => do
      forward 1
      return textOf [s]
    | none, some width => do
      forward 1
      let n ← scanHex width
      return [← numberedSymbol n]
    | none, none =>
      match ← takeBreak with
      | some _ => return textOf (← scanQuotedBreaks)
      | none => throw .token

/-- Characters that are no blanks, up to a blank, a break or the closing quote. -/
def scanQuotedWord (double : Bool) : Scan Text :=
  repeatScan (fun (out : Text) => do
    match ← peek with
    | some '\'' =>
      if double then
        forward 1
        return .inl (out ++ textOf ['\''])
      else if (← peekAt 1) = some '\'' then
        forward 2
        return .inl (out ++ textOf ['\''])
      else return .inr out
    | some '"' =>
      if double then return .inr out
      else
        forward 1
        return .inl (out ++ textOf ['"'])
    | some '\\' =>
      if double then return .inl (out ++ (← scanEscape))
      else
        forward 1
        return .inl (out ++ textOf ['\\'])
    | some c =>
      if isWhite c then return .inr out
      else
        let word ← takeWhile fun c => !isWhite c && c ≠ '\'' && c ≠ '"' && c ≠ '\\'
        return .inl (out ++ textOf word)
    | none => return .inr out) []

/-- Blanks, and the breaks behind them. -/
def scanQuotedSpace : Scan Text := do
  let blanks ← takeWhile fun c => c = ' ' || c = '\t'
  if (← peek).isNone then throw .token
  match ← takeBreak with
  | some b => return foldBreak b (← scanQuotedBreaks)
  | none => return textOf blanks

/-- A scalar between quotes. -/
def scanQuoted (double : Bool) : Scan Token := do
  forward 1
  let first ← scanQuotedWord double
  let quote := if double then '"' else '\''
  let text ← repeatScan (fun (out : Text) => do
    if ← nextIs (· = quote) then
      forward 1
      return .inr out
    else
      let blank ← scanQuotedSpace
      let word ← scanQuotedWord double
      return .inl (out ++ blank ++ word)) first
  return .scalar text false

/-! ## Plain -/

/-- Whether a plain scalar ends at the character that has `next` behind it. -/
def endsPlain (inFlow : Bool) (c : Char) (next : Option Char) : Bool :=
  isWhite c ||
    (c = ':' && next.all fun n => isWhite n || (inFlow && flowMarks.contains n)) ||
    (inFlow && (c = '?' || flowMarks.contains c))

/-- The characters up to where a plain scalar ends. -/
def plainWord (inFlow : Bool) : List Char → List Char
  | [] => []
  | c :: r => if endsPlain inFlow c r.head? then [] else c :: plainWord inFlow r

/-- The breaks and blanks behind a plain line break, or none at all in front of a document mark. -/
def scanPlainBreaks : Scan (Option (List Char)) :=
  repeatScan (fun (breaks : List Char) => do
    if ← nextIs (· = ' ') then
      forward 1
      return .inl breaks
    match ← takeBreak with
    | some b => if ← atSeparator then return .inr none else return .inl (breaks ++ [b])
    | none => return .inr (some breaks)) []

/-- The space behind a plain word and whether it holds a break. -/
def scanPlainSpace : Scan (Text × Bool) := do
  let blanks ← takeWhile (· = ' ')
  match ← takeBreak with
  | some b =>
    if ← atSeparator then return ([], true)
    match ← scanPlainBreaks with
    | some more => return (foldBreak b more, true)
    | none => return ([], true)
  | none => return (textOf blanks, false)

/-- A plain scalar whose later lines stand at least at column `indent` in block context, and whether it was followed
by a break. -/
def scanPlain (inFlow : Bool) (indent : Int) : Scan (Token × Bool) := do
  let (text, broke) ← repeatScan (fun (state : Text × Text × Bool) => do
    let (out, space, broke) := state
    let word := plainWord inFlow (← get).rest
    if word.isEmpty || (← nextIs (· = '#')) then return .inr (out, broke)
    forward word.length
    let out := out ++ space ++ textOf word
    let (space, broke) ← scanPlainSpace
    let column := (← get).column
    if space.isEmpty || (← nextIs (· = '#')) || (!inFlow && (column : Int) < indent) then return .inr (out, broke)
    return .inl (out, space, broke)) ([], [], false)
  return (.scalar text true, broke)

/-! ## Blocks of lines -/

/-- What happens to the breaks at the end of a block. -/
inductive Chomping
  | clip
  | strip
  | keep
deriving DecidableEq

/-- The sign that chooses the chomping. -/
def scanChomping : Scan (Option Chomping) := do
  match ← peek with
  | some '+' =>
    forward 1
    return some .keep
  | some '-' =>
    forward 1
    return some .strip
  | _ => return none

/-- The digit that gives the indentation; zero is none. -/
def scanIndentDigit : Scan (Option Nat) := do
  match ← peek with
  | some c =>
    if c.isDigit then
      require (c ≠ '0')
      forward 1
      return some (c.toNat - '0'.toNat)
    else return none
  | none => return none

/-- The head of a block: chomping and indentation in either order. -/
def scanBlockHead : Scan (Chomping × Option Nat) := do
  let (chomping, digit) ← match ← scanChomping with
    | some chomping => pure (chomping, ← scanIndentDigit)
    | none =>
      match ← scanIndentDigit with
      | some digit => pure ((← scanChomping).getD .clip, some digit)
      | none => pure (.clip, none)
  require (← atBlankOrBreak)
  scanLineEnd
  return (chomping, digit)

/-- The empty lines at the start of a block without a given indentation, and the furthest column among them. -/
def scanBlockIndent : Scan (List Char × Nat) :=
  repeatScan (fun (state : List Char × Nat) => do
    let (breaks, furthest) := state
    if ← nextIs (· = ' ') then
      forward 1
      return .inl (breaks, max furthest (← get).column)
    match ← takeBreak with
    | some b => return .inl (breaks ++ [b], furthest)
    | none => return .inr (breaks, furthest)) ([], 0)

/-- Blanks up to the column of the block. -/
def skipIndent (indent : Nat) : Scan Unit := do
  let c ← get
  let blanks := (c.rest.take (indent - c.column)).takeWhile (· = ' ')
  forward blanks.length

/-- The empty lines before the next line of a block. -/
def scanBlockBreaks (indent : Nat) : Scan (List Char) := do
  skipIndent indent
  repeatScan (fun (breaks : List Char) => do
    match ← takeBreak with
    | some b =>
      skipIndent indent
      return .inl (breaks ++ [b])
    | none => return .inr breaks) []

/-- Whether another line of the block begins here. -/
def atBlockLine (indent : Nat) : Scan Bool := do
  let c ← get
  return c.column = indent && !c.rest.isEmpty

/-- The lines of a block: its text, the break of its last line and the empty lines behind it. In a folded block the
break between two lines that begin with text is folded. -/
def scanBlockLines (folded : Bool) (indent : Nat) (breaks : List Char) : Scan (Text × List Char × List Char) :=
  repeatScan (fun (state : Text × List Char × List Char) => do
    let (out, lineBreak, breaks) := state
    if !(← atBlockLine indent) then return .inr (out, lineBreak, breaks)
    let beginsWithText := !(← nextIs fun c => c = ' ' || c = '\t')
    let line ← takeWhile fun c => !isBreak c
    let out := out ++ textOf breaks ++ textOf line
    let lineBreak := (← takeBreak).toList
    let breaks ← scanBlockBreaks indent
    if ← atBlockLine indent then
      let nextBeginsWithText := !(← nextIs fun c => c = ' ' || c = '\t')
      if folded && lineBreak = ['\n'] && beginsWithText && nextBeginsWithText then
        return .inl (if breaks.isEmpty then out ++ textOf [' '] else out, lineBreak, breaks)
      else return .inl (out ++ textOf lineBreak, lineBreak, breaks)
    else return .inr (out, lineBreak, breaks)) ([], [], breaks)

/-- A block scalar inside a block at column `parent`. -/
def scanBlock (folded : Bool) (parent : Int) : Scan Token := do
  forward 1
  let (chomping, digit) ← scanBlockHead
  let least := max (parent + 1) 1
  let (indent, breaks) ← match digit with
    | some d => do
      let indent := (least + d - 1).toNat
      pure (indent, ← scanBlockBreaks indent)
    | none => do
      let (breaks, furthest) ← scanBlockIndent
      pure (max least.toNat furthest, breaks)
  let (text, lineBreak, breaks) ← scanBlockLines folded indent breaks
  let tail := match chomping with
    | .strip => []
    | .clip => lineBreak
    | .keep => lineBreak ++ breaks
  return .scalar (text ++ textOf tail) false

end LogHarvest.Yaml
