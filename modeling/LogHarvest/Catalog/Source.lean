import LogHarvest.Data.Display

/-!
# Log sources

A log source is declared by a mapping with a `name`, and `managed` with a `type` and `properties`. Whatever else a
declaration holds is of no concern here, and one that lacks something is left to other programs.
-/

namespace LogHarvest

/-- A managed log source. -/
structure LogSource where
  name : Text
  type : Text
  properties : List (Value × Value)
deriving Repr, Inhabited

/-- Why a declaration is passed over. -/
inductive Skipped
  | notMapping
  | missing (field : Text)
  | wrongKind (field wanted : Text) (value : Value)
deriving Repr

namespace Skipped

/-- The wording of the reason; a declaration that is no mapping gets none. -/
def message : Skipped → Option Text
  | notMapping => none
  | missing field => some (Text.ofString "missing value for field \"" ++ field ++ Text.ofString "\"")
  | wrongKind field wanted value =>
    some (Text.ofString "wrong value type for field \"" ++ field ++ Text.ofString "\" - should be \"" ++ wanted ++
      Text.ofString "\" instead of value \"" ++ value.display ++ Text.ofString "\" of type \"" ++ value.kindName ++
      Text.ofString "\"")

end Skipped

namespace LogSource

/-- A field of a mapping that must be text. `path` is its name in messages. -/
def textField (entries : List (Value × Value)) (name path : String) : Except Skipped Text :=
  match Value.find? entries name with
  | none => .error (.missing path)
  | some (.text t) => .ok t
  | some v => .error (.wrongKind path (Text.ofString "str") v)

/-- The entries of a mapping. It may be one of the mappings that it stands in: `around` are their entries, from the
outermost on. -/
def entries? (around : List (List (Value × Value))) : Value → Option (List (Value × Value))
  | .map es => some es
  | .enclosing depth true => around[depth]?
  | _ => none

/-- A field of a mapping that must be a mapping of the kind `wanted`; `outer` is what stands around the first one. -/
def mapField (outer : List (List (Value × Value))) (entries : List (Value × Value)) (name path wanted : String) :
    Except Skipped (List (Value × Value)) :=
  match Value.find? entries name with
  | none => .error (.missing path)
  | some v => match entries? (outer ++ [entries]) v with
    | some es => .ok es
    | none => .error (.wrongKind path wanted v)

/-- Reads a declaration. -/
def ofValue : Value → Except Skipped LogSource
  | .map entries => do
    let name ← textField entries "name" "name"
    let managed ← mapField [] entries "managed" "managed" "ManagedConfig"
    let type ← textField managed "type" "managed.type"
    let properties ← mapField [entries] managed "properties" "managed.properties" "Dict"
    return ⟨name, type, properties⟩
  | _ => .error .notMapping

end LogSource

end LogHarvest
