import LogHarvest.Yaml.Cursor

/-!
# Tokens

The tokens of a YAML text, and those of them that stand for themselves: directives, anchors, aliases and tags.
-/

namespace LogHarvest.Yaml

/-- A line that begins with a percent sign. -/
inductive Directive
  | version (major minor : Nat)
  | tagHandle (handle start : Text)
  | other
deriving DecidableEq, Repr

/-- A token. -/
inductive Token
  | directive (d : Directive)
  | documentStart
  | documentEnd
  | textEnd
  | blockSequenceStart
  | blockMappingStart
  | blockEnd
  | flowSequenceStart
  | flowSequenceEnd
  | flowMappingStart
  | flowMappingEnd
  | blockEntry
  | flowEntry
  | key
  | value
  | alias (name : Text)
  | anchor (name : Text)
  | tag (handle : Option Text) (suffix : Text)
  | scalar (text : Text) (plain : Bool)
deriving DecidableEq, Repr, Inhabited

/-- A text made of characters. -/
def textOf (cs : List Char) : Text := cs.map Symbol.char

/-! ## Names -/

/-- The name behind an anchor or alias sign. -/
def scanName : Scan Text := do
  forward 1
  let name ← takeWhile isNameChar
  require (!name.isEmpty)
  require (← nextIsOrEnd fun c => isWhite c || "?:,]\x7d%@\x60".toList.contains c)
  return textOf name

/-! ## Tags -/

/-- The value of a hexadecimal digit. -/
def hexDigit (c : Char) : Option Nat := (Symbol.char c).hex?

/-- The number that exactly `n` hexadecimal digits spell, most significant first. -/
def scanHex (n : Nat) : Scan Nat := do
  let digits := (← get).rest.take n
  match digits.mapM hexDigit with
  | some values =>
    require (values.length = n)
    forward n
    return values.foldl (fun a d => a * 16 + d) 0
  | none => throw .token

/-- The characters that a run of escaped bytes encodes. -/
def scanEscapedBytes : Scan (List Char) := do
  let bytes ← repeatScan (fun (bytes : List UInt8) => do
    if ← nextIs (· = '%') then
      forward 1
      return .inl (bytes ++ [(← scanHex 2).toUInt8])
    else return .inr bytes) []
  match String.fromUTF8? ⟨bytes.toArray⟩ with
  | some s => return s.toList
  | none => throw .token

/-- The address of a tag. -/
def scanAddress : Scan Text := do
  let cs ← repeatScan (fun (cs : List Char) => do
    match ← peek with
    | some '%' => return .inl (cs ++ (← scanEscapedBytes))
    | some c =>
      if isAddressChar c then return .inl (cs ++ (← takeWhile fun c => isAddressChar c && c ≠ '%'))
      else return .inr cs
    | none => return .inr cs) []
  require (!cs.isEmpty)
  return textOf cs

/-- The handle of a tag: one exclamation mark, or a name between two. -/
def scanHandle : Scan Text := do
  require (← nextIs (· = '!'))
  forward 1
  if ← nextIs (· = ' ') then return textOf ['!']
  let name ← takeWhile isNameChar
  require (← nextIs (· = '!'))
  forward 1
  return textOf ('!' :: name ++ ['!'])

/-- Whether another exclamation mark follows in the word at the cursor. -/
def hasSecondMark : Scan Bool := do
  let word := ((← get).rest.drop 1).takeWhile fun c => c = '\t' || !isWhite c
  return word.contains '!'

/-- A tag: verbatim in angle brackets, alone, or a handle with a suffix. -/
def scanTag : Scan Token := do
  let (handle, suffix) ← match ← peekAt 1 with
    | some '<' => do
      forward 2
      let suffix ← scanAddress
      require (← nextIs (· = '>'))
      forward 1
      pure (none, suffix)
    | other =>
      if other.all isWhite then do
        forward 1
        pure (none, textOf ['!'])
      else do
        let handle ← if ← hasSecondMark then scanHandle else do
          forward 1
          pure (textOf ['!'])
        pure (some handle, ← scanAddress)
  require (← nextIsOrEnd fun c => c ≠ '\t' && isWhite c)
  return .tag handle suffix

/-! ## Directives -/

/-- A number of the version directive. -/
def scanVersionNumber : Scan Nat := do
  let digits ← takeWhile Char.isDigit
  require (!digits.isEmpty)
  return digits.foldl (fun n c => n * 10 + (c.toNat - '0'.toNat)) 0

/-- Whether the text ends here, or a blank or line break follows. -/
def atBlankOrBreak : Scan Bool := nextIsOrEnd fun c => c = ' ' || isBreak c

/-- The rest of a line that may hold a comment only, with its line break. -/
def scanLineEnd : Scan Unit := do
  let _ ← takeWhile (· = ' ')
  if ← nextIs (· = '#') then
    let _ ← takeWhile fun c => !isBreak c
  require (← nextIsOrEnd isBreak)
  let _ ← takeBreak

/-- A directive. Those of unknown name are skipped. -/
def scanDirective : Scan Token := do
  forward 1
  let name ← takeWhile isNameChar
  require (!name.isEmpty)
  require (← atBlankOrBreak)
  let directive ← match String.ofList name with
    | "YAML" => do
      let _ ← takeWhile (· = ' ')
      let major ← scanVersionNumber
      require (← nextIs (· = '.'))
      forward 1
      let minor ← scanVersionNumber
      require (← atBlankOrBreak)
      pure (Directive.version major minor)
    | "TAG" => do
      let _ ← takeWhile (· = ' ')
      let handle ← scanHandle
      require (← nextIs (· = ' '))
      let _ ← takeWhile (· = ' ')
      let start ← scanAddress
      require (← atBlankOrBreak)
      pure (Directive.tagHandle handle start)
    | _ => do
      let _ ← takeWhile fun c => !isBreak c
      pure Directive.other
  scanLineEnd
  return .directive directive

end LogHarvest.Yaml
