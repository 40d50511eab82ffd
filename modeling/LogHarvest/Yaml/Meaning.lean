import LogHarvest.Number.Real
import LogHarvest.Yaml.Node
import LogHarvest.Yaml.Timestamp

/-!
# The values of nodes

The tag of a node says what value it has. Only the tags of the standard are known.

Containers are opened first and filled later, level by level: all scalars of one level have their values before the
next level is looked at. So of several faults the one on the outermost level counts, and on one level the first. An
`Outcome` carries the level of its fault for that comparison.
-/

namespace LogHarvest.Yaml

/-- A value, or the fault that comes first and how many levels further in it lies. -/
abbrev Outcome (α : Type) := Except (Nat × Fault) α

namespace Outcome

/-- A fault on the level at hand. -/
def here {α : Type} (fault : Fault) : Outcome α := .error (0, fault)

/-- An outcome of this level. -/
def ofExcept {α : Type} : Except Fault α → Outcome α
  | .ok a => .ok a
  | .error fault => here fault

/-- The same one level further in. -/
def inner {α : Type} : Outcome α → Outcome α
  | .ok a => .ok a
  | .error (level, fault) => .error (level + 1, fault)

/-- Both values, or the fault that comes first. -/
def both {α β : Type} : Outcome α → Outcome β → Outcome (α × β)
  | .ok a, .ok b => .ok (a, b)
  | .error e, .ok _ => .error e
  | .ok _, .error e => .error e
  | .error e, .error f => .error (if f.1 < e.1 then f else e)

/-- All values, or the fault that comes first. -/
def all {α : Type} : List (Outcome α) → Outcome (List α)
  | [] => .ok []
  | a :: rest => (both a (all rest)).map fun p => p.1 :: p.2

end Outcome

/-! ## Scalars -/

/-- The parts between colons. -/
def colonParts (t : Text) : List Text := t.splitOn (.char ':')

/-- The integer that an integer scalar spells, in base two, eight, ten, sixteen or sixty. -/
def readInteger (t : Text) : Except Fault Int := do
  let t := t.filter (· ≠ .char '_')
  if t.isEmpty then throw .emptyNumber
  let (negative, t) := Integer.splitSign t
  let inBase (base : Nat) (t : Text) : Except Fault Int := (Integer.readBase base t).mapError .integer
  let n ← match t with
    | [.char '0'] => pure 0
    | .char '0' :: .char 'b' :: r => inBase 2 r
    | .char '0' :: .char 'x' :: r => inBase 16 r
    | .char '0' :: _ => inBase 8 t
    | [] => throw .emptyNumber
    | _ =>
      if t.contains (.char ':') then do
        let parts ← (colonParts t).mapM (inBase 10)
        pure (parts.foldl (fun n d => n * 60 + d) 0)
      else inBase 10 t
  return if negative then -n else n

/-- The sum of the parts of a real number in base sixty, the last part first. -/
def sumSixties (sum : Binary64) (base : Nat) : List Binary64 → Except Fault Binary64
  | [] => .ok sum
  | part :: rest =>
    match Binary64.ofNat base with
    | .finite s m e => sumSixties (sum.add (part.mul (.finite s m e))) (base * 60) rest
    | _ => .error .realTooLarge

/-- The number that a real scalar spells. -/
def readReal (t : Text) : Except Fault Binary64 := do
  let t := Text.lowerAscii (t.filter (· ≠ .char '_'))
  if t.isEmpty then throw .emptyNumber
  let (negative, t) := Integer.splitSign t
  let one (part : Text) : Except Fault Binary64 := match Real.read part with
    | some x => .ok x
    | none => .error (.real part)
  if t = Text.ofString ".inf" then return .infinite negative
  if t = Text.ofString ".nan" then return .nan
  let x ← if t.contains (.char ':') then do
      let parts ← (colonParts t).mapM one
      sumSixties (.finite false 0 (-1074)) 1 parts.reverse
    else one t
  return if negative then x.neg else x

/-- The truth value of a word. -/
def readTruth (t : Text) : Except Fault Bool :=
  let t := Text.lowerAscii t
  if ["yes", "true", "on"].any fun w => t = Text.ofString w then .ok true
  else if ["no", "false", "off"].any fun w => t = Text.ofString w then .ok false
  else .error (.truthWord t)

/-- The six bits of a character in base 64. -/
def sixBits (s : Symbol) : Option Nat :=
  match s with
  | .char c =>
    if 'A' ≤ c ∧ c ≤ 'Z' then some (c.toNat - 'A'.toNat)
    else if 'a' ≤ c ∧ c ≤ 'z' then some (c.toNat - 'a'.toNat + 26)
    else if '0' ≤ c ∧ c ≤ '9' then some (c.toNat - '0'.toNat + 52)
    else if c = '+' then some 62
    else if c = '/' then some 63
    else none
  | .half _ => none

/-- The bytes in base 64. `count` is the place in a group of four, `bits` what is left of the character before, `pads`
how many padding characters came since the last one that counts. Other characters are skipped; padding that
completes a group ends the data. -/
def readBase64 (count bits pads : Nat) : Text → Option (List UInt8)
  | [] => if count = 0 then some [] else none
  | s :: r =>
    if s = .char '=' then
      if 2 ≤ count then
        if 4 ≤ count + pads + 1 then some [] else readBase64 count bits (pads + 1) r
      else readBase64 count bits pads r
    else match sixBits s with
      | none => readBase64 count bits pads r
      | some v =>
        match count with
        | 0 => readBase64 1 v 0 r
        | 1 => (readBase64 2 (v % 16) 0 r).map (((bits * 4 + v / 16).toUInt8) :: ·)
        | 2 => (readBase64 3 (v % 4) 0 r).map (((bits * 16 + v / 4).toUInt8) :: ·)
        | _ => (readBase64 0 0 0 r).map (((bits * 64 + v).toUInt8) :: ·)

/-- The bytes that a binary scalar spells. -/
def readBytes (t : Text) : Except Fault (List UInt8) :=
  if t.any fun s => 0x80 ≤ s.code then .error .meaning
  else match readBase64 0 0 0 t with
    | some bs => .ok bs
    | none => .error .meaning

/-- The value of a text under a scalar tag, or none for another tag. `whole` says that the text is a scalar itself and
not the value of a mapping. -/
def scalarValue (tag t : Text) (whole : Bool) : Option (Except Fault Value) :=
  if tag = Tag.str then some (.ok (.text t))
  else if tag = Tag.null then some (.ok .null)
  else if tag = Tag.bool then some ((readTruth t).map .bool)
  else if tag = Tag.int then some ((readInteger t).map .int)
  else if tag = Tag.float then some ((readReal t).map .float)
  else if tag = Tag.binary then some ((readBytes t).map .bytes)
  else if tag = Tag.timestamp then some <|
    if whole then match Timestamp.read t with
      | some (.ok v) => .ok v
      | some (.error fault) => .error (.calendar fault)
      | none => .error .timestamp
    else .error .timestampInMapping
  else none

/-- Whether the tag is one of a container. -/
def isContainerTag (tag : Text) : Bool :=
  tag = Tag.seq || tag = Tag.map || tag = Tag.set || tag = Tag.omap || tag = Tag.pairs

/-! ## Nodes -/

namespace Node

/-- The tag of a node. -/
def tag : Node → Text
  | scalar tag _ | sequence tag _ | mapping tag _ => tag
  | enclosing _ true => Tag.map
  | enclosing _ false => Tag.seq

/-- The text of a node that is taken for a scalar: a mapping may have one under the key `=`. -/
def scalarText : Node → Option Text
  | scalar _ t => some t
  | mapping _ entries => entryText entries
  | _ => none
where
  /-- The text under the key `=`. -/
  entryText : List (Node × Node) → Option Text
    | [] => none
    | (key, v) :: rest => if key.tag = Tag.value then scalarText v else entryText rest

/-- The value of a node under a tag that is not one of a container. -/
def plainValue (n : Node) : Except Fault Value :=
  match n.scalarText with
  | none => .error .meaning
  | some t =>
    let whole := match n with
      | scalar .. => true
      | _ => false
    match scalarValue n.tag t whole with
    | some r => r
    | none => .error .meaning

/-- What a mapping is made of: the entries that it merges in, and its own. -/
structure Spread where
  fault : Option Fault
  merged : List (Outcome (Value × Value))
  own : List (Outcome (Value × Value))

/-- A key and its value. Containers are no keys. -/
def entry (key : Node) (k v : Outcome Value) : Outcome (Value × Value) :=
  let k : Outcome Value := if isContainerTag key.tag then .here .meaning
    else match k with
      | .ok k => if k.isKey then .ok k else .here .meaning
      | .error e => .error e
  Outcome.both k v

/-- The entries of a map, each key once with its last value. What is merged in comes first. -/
def mapOf (s : Spread) : Outcome (List (Value × Value)) :=
  match s.fault with
  | some fault => .here fault
  | none => (Outcome.all (s.merged ++ s.own)).map fun es => es.foldl (fun out e => Value.put out e.1 e.2) []

mutual

/-- The value of a node. -/
def meaning : Node → Outcome Value
  | enclosing depth isMap => .ok (.enclosing depth isMap)
  | scalar tag t =>
    if isContainerTag tag then (Outcome.here .meaning).inner else .ofExcept (plainValue (scalar tag t))
  | sequence tag items =>
    if tag = Tag.seq then ((Outcome.all (meanings items)).inner).map .list
    else if tag = Tag.omap || tag = Tag.pairs then ((Outcome.all (pairItems items)).inner).map .list
    else if isContainerTag tag then (Outcome.here .meaning).inner
    else .ofExcept (plainValue (sequence tag items))
  | mapping tag entries =>
    if tag = Tag.map then (mapOf (spread entries)).inner.map .map
    else if tag = Tag.set then (mapOf (spread entries)).inner.map fun es => .set (es.map (·.1))
    else if isContainerTag tag then (Outcome.here .meaning).inner
    else .ofExcept (plainValue (mapping tag entries))

/-- The values of items. -/
def meanings : List Node → List (Outcome Value)
  | [] => []
  | n :: rest => meaning n :: meanings rest

/-- The values of items that must be mappings of one entry each. -/
def pairItems : List Node → List (Outcome Value)
  | [] => []
  | .mapping _ [(key, v)] :: rest =>
    ((Outcome.both (meaning key) (meaning v)).map fun p => Value.pair p.1 p.2) :: pairItems rest
  | _ :: rest => .here .meaning :: pairItems rest

/-- What a mapping is made of. A merge key takes in the entries of a mapping, or those of several, the last first. -/
def spread : List (Node × Node) → Spread
  | [] => ⟨none, [], []⟩
  | (key, v) :: rest =>
    let later := spread rest
    if key.tag = Tag.merge then
      match v with
      | .mapping _ entries =>
        let s := spread entries
        ⟨s.fault.orElse fun _ => later.fault, s.merged ++ s.own ++ later.merged, later.own⟩
      | .sequence _ items =>
        let s := spreadItems items
        ⟨s.fault.orElse fun _ => later.fault, s.merged ++ later.merged, later.own⟩
      | .enclosing _ true => later
      | _ => ⟨some .meaning, [], []⟩
    else
      let k := match key with
        | .scalar tag t => if tag = Tag.value then .ok (.text t) else meaning (.scalar tag t)
        | other => meaning other
      ⟨later.fault, later.merged, entry key k (meaning v) :: later.own⟩

/-- The entries of several mappings to merge, the last mapping first. -/
def spreadItems : List Node → Spread
  | [] => ⟨none, [], []⟩
  | .mapping _ entries :: rest =>
    let s := spread entries
    let later := spreadItems rest
    ⟨s.fault.orElse fun _ => later.fault, later.merged ++ s.merged ++ s.own, []⟩
  | .enclosing _ true :: rest => spreadItems rest
  | _ :: _ => ⟨some .meaning, [], []⟩

end

end Node

/-! ## Texts -/

/-- The value of the document that a text holds, nested at most so deep; a text without a document is nothing. -/
def load (depthLimit : Nat) (text : List Char) : Except Fault Value :=
  if !text.all isAllowed then .error .character
  else match Node.ofText depthLimit text with
    | .error fault => .error fault
    | .ok none => .ok .null
    | .ok (some root) =>
      match root.meaning with
      | .ok v => .ok v
      | .error (_, fault) => .error fault

end LogHarvest.Yaml
