import LogHarvest.Yaml.Scalar

/-!
# From text to tokens

Blocks are made by indentation, so the lexer keeps the columns of the open blocks. A mapping key needs no sign in front
of it: any token that may turn out to be a key is remembered until a colon settles it or its line is over, and the
colon then puts the key token in front.

A token that may still be a key is not handed on. So when the lexer fails, the tokens from that one on are lost:
`TokenList` holds those that were handed on, and the fault behind them.
-/

namespace LogHarvest.Yaml

/-- A token that may turn out to be a key: its number, and the place where it begins. A required one begins a line of
the current block and cannot be anything else. -/
structure KeyCandidate where
  number : Nat
  required : Bool
  index : Nat
  line : Nat
  column : Nat

/-- The state of the lexer. The flow level is how many brackets are open; the candidates have the level at which they
stand. -/
structure Lexer where
  cursor : Cursor
  flow : Int
  indent : Int
  indents : List Int
  keyAllowed : Bool
  candidates : List (Int × KeyCandidate)
  tokens : Array Token
  done : Bool

/-- The tokens of a text, and why there are no more if the text ends before its last token. -/
structure TokenList where
  tokens : List Token
  fault : Option Fault

/-- The lexer at the start of a text. -/
def Lexer.start (text : List Char) : Lexer :=
  ⟨.start text, 0, -1, [], true, [], #[], false⟩

/-- An action of the lexer. -/
abbrev Lex := StateT Lexer (Except Fault)

namespace Lex

/-- Looks at the text. -/
def scan {α : Type} (look : Scan α) : Lex α := do
  let s ← get
  let (a, cursor) ← look s.cursor
  set { s with cursor := cursor }
  return a

/-- Adds a token. -/
def emit (t : Token) : Lex Unit := modify fun s => { s with tokens := s.tokens.push t }

/-- Adds a token in front of the one with the given number. -/
def emitBefore (number : Nat) (t : Token) : Lex Unit :=
  modify fun s =>
    let tail := s.tokens.extract number s.tokens.size
    { s with tokens := (s.tokens.shrink number).push t ++ tail }

/-- Fails unless `ok` holds. -/
def require (ok : Bool) : Lex Unit := if ok then pure () else throw .token

/-- Whether brackets are open. -/
def inFlow : Lex Bool := return (← get).flow ≠ 0

/-- Says whether the next token may be a key. -/
def allowKey (allowed : Bool) : Lex Unit := modify fun s => { s with keyAllowed := allowed }

/-- The column of the cursor. -/
def column : Lex Int := return (← get).cursor.column

/-! ## Blocks -/

/-- Closes the blocks that stand further to the right than `column`. -/
def closeBlocks (s : Lexer) (column : Int) : List Int → Lexer
  | [] => s
  | outer :: rest =>
    if column < s.indent then
      closeBlocks { s with indent := outer, indents := rest, tokens := s.tokens.push .blockEnd } column rest
    else s

/-- Closes blocks in block context. -/
def unwind (column : Int) : Lex Unit :=
  modify fun s => if s.flow ≠ 0 then s else closeBlocks s column s.indents

/-- Opens a block at a column if it stands further to the right than the current one. -/
def openBlock (column : Int) : Lex Bool := do
  let s ← get
  if s.indent < column then
    set { s with indent := column, indents := s.indent :: s.indents }
    return true
  else return false

/-! ## Key candidates -/

/-- The longest a key can be. -/
def keyLimit : Nat := 1024

/-- Drops the candidates whose line is over. A required one may not be dropped. -/
def dropStale : Lex Unit := do
  let s ← get
  let stale (k : KeyCandidate) : Bool := k.line ≠ s.cursor.line || keyLimit < s.cursor.index - k.index
  require (!s.candidates.any fun c => stale c.2 && c.2.required)
  set { s with candidates := s.candidates.filter fun c => !stale c.2 }

/-- Drops the candidate of the current level. -/
def dropCandidate : Lex Unit := do
  let s ← get
  match s.candidates.lookup s.flow with
  | none => return
  | some k =>
    require (!k.required)
    set { s with candidates := s.candidates.filter fun c => c.1 ≠ s.flow }

/-- Remembers that the next token may be a key, if it may. -/
def noteCandidate : Lex Unit := do
  if (← get).keyAllowed then
    dropCandidate
    modify fun s =>
      let c := s.cursor
      let required : Bool := s.flow = 0 && s.indent = c.column
      { s with candidates := (s.flow, ⟨s.tokens.size, required, c.index, c.line, c.column⟩) :: s.candidates }

/-! ## Tokens of one kind -/

/-- Adds a token of so many characters. -/
def take (width : Nat) (t : Token) : Lex Unit := do
  scan (forward width)
  emit t

/-- A token that ends all blocks. -/
def outermost (look : Lex Token) : Lex Unit := do
  unwind (-1)
  dropCandidate
  allowKey false
  emit (← look)

/-- The end of the text. -/
def textEnd : Lex Unit := do
  outermost (pure .textEnd)
  modify fun s => { s with candidates := [], done := true }

/-- An opening bracket. -/
def opening (t : Token) : Lex Unit := do
  noteCandidate
  modify fun s => { s with flow := s.flow + 1 }
  allowKey true
  take 1 t

/-- A closing bracket. -/
def closing (t : Token) : Lex Unit := do
  dropCandidate
  modify fun s => { s with flow := s.flow - 1 }
  allowKey false
  take 1 t

/-- A comma between brackets. -/
def comma : Lex Unit := do
  allowKey true
  dropCandidate
  take 1 .flowEntry

/-- A hyphen in front of an entry. -/
def blockEntry : Lex Unit := do
  if !(← inFlow) then
    require (← get).keyAllowed
    if ← openBlock (← column) then emit .blockSequenceStart
  allowKey true
  dropCandidate
  take 1 .blockEntry

/-- A question mark in front of a key. -/
def explicitKey : Lex Unit := do
  let flow ← inFlow
  if !flow then
    require (← get).keyAllowed
    if ← openBlock (← column) then emit .blockMappingStart
  allowKey (!flow)
  dropCandidate
  take 1 .key

/-- A colon in front of a value. A candidate of this level becomes the key. -/
def value : Lex Unit := do
  let s ← get
  match s.candidates.lookup s.flow with
  | some k =>
    set { s with candidates := s.candidates.filter fun c => c.1 ≠ s.flow }
    emitBefore k.number .key
    if !(← inFlow) then
      if ← openBlock k.column then emitBefore k.number .blockMappingStart
    allowKey false
  | none =>
    let flow ← inFlow
    if !flow then
      require s.keyAllowed
      if ← openBlock (← column) then emit .blockMappingStart
    allowKey (!flow)
    dropCandidate
  take 1 .value

/-- A token that may be a key. -/
def keyLike (look : Scan Token) : Lex Unit := do
  noteCandidate
  allowKey false
  emit (← scan look)

/-- A plain scalar. Behind a line break another key may come. -/
def plain : Lex Unit := do
  noteCandidate
  let s ← get
  let (t, broke) ← scan (scanPlain (s.flow ≠ 0) (s.indent + 1))
  allowKey broke
  emit t

/-- A block of lines. -/
def block (folded : Bool) : Lex Unit := do
  allowKey true
  dropCandidate
  emit (← scan (scanBlock folded (← get).indent))

/-! ## The next token -/

/-- Skips blanks, comments and line breaks. In block context a key may follow a break. -/
def skipSpace : Lex Unit := do
  if (← get).cursor.index = 0 then
    if ← scan (nextIs (· = '\ufeff')) then scan (forward 1)
  let broke ← scan (repeatScan (fun (broke : Bool) => do
    let _ ← takeWhile (· = ' ')
    if ← nextIs (· = '#') then
      let _ ← takeWhile fun c => !isBreak c
    match ← takeBreak with
    | some _ => return .inl true
    | none => return .inr broke) false)
  if broke && !(← inFlow) then allowKey true

/-- Whether a plain scalar can begin with `c` in front of `next`. -/
def beginsPlain (flow : Bool) (c : Char) (next : Option Char) : Bool :=
  (!isWhite c && !indicators.contains c) ||
    (!next.all isWhite && (c = '-' || (!flow && (c = '?' || c = ':'))))

/-- Reads the next token, and the block tokens that belong in front of it. -/
def next : Lex Unit := do
  skipSpace
  dropStale
  unwind (← column)
  let flow ← inFlow
  let atLineStart := (← column) = 0
  let following ← scan (peekAt 1)
  let spaced := following.all isWhite
  match ← scan peek with
  | none => textEnd
  | some c =>
    if c = '%' && atLineStart then outermost (scan scanDirective)
    else if c = '-' && atLineStart && (← scan (atDocumentMark '-')) then
      outermost (do scan (forward 3); pure .documentStart)
    else if c = '.' && atLineStart && (← scan (atDocumentMark '.')) then
      outermost (do scan (forward 3); pure .documentEnd)
    else if c = '[' then opening .flowSequenceStart
    else if c = '{' then opening .flowMappingStart
    else if c = ']' then closing .flowSequenceEnd
    else if c = '}' then closing .flowMappingEnd
    else if c = ',' then comma
    else if c = '-' && spaced then blockEntry
    else if c = '?' && (flow || spaced) then explicitKey
    else if c = ':' && (flow || spaced) then value
    else if c = '*' then keyLike (do return .alias (← scanName))
    else if c = '&' then keyLike (do return .anchor (← scanName))
    else if c = '!' then keyLike scanTag
    else if c = '|' && !flow then block false
    else if c = '>' && !flow then block true
    else if c = '\'' then keyLike (scanQuoted false)
    else if c = '"' then keyLike (scanQuoted true)
    else if beginsPlain flow c following then plain
    else throw .token

end Lex

namespace Lexer

/-- How many tokens have been handed on: all up to the first that may still be a key. -/
def handedOn (s : Lexer) : Nat :=
  s.candidates.foldl (fun n c => min n c.2.number) s.tokens.size

/-- The tokens handed on before the lexer failed. -/
def failed (s : Lexer) (fault : Fault) : TokenList :=
  ⟨(s.tokens.extract 0 s.handedOn).toList, some fault⟩

/-- Reads tokens up to the end of the text. Each takes at least one character. -/
def run : Nat → Lexer → TokenList
  | 0, s => s.failed .token
  | n + 1, s =>
    match (do Lex.next; if !(← get).done then Lex.dropStale : Lex Unit) s with
    | .error fault => s.failed fault
    | .ok (_, s) => if s.done then ⟨s.tokens.toList, none⟩ else run n s

end Lexer

/-- The tokens of a text. -/
def TokenList.ofText (text : List Char) : TokenList := Lexer.run (text.length + 1) (.start text)

end LogHarvest.Yaml
