import LogHarvest.Catalog.Routing
import LogHarvest.Scene

/-!
# Connectors

A connector pulls the sources of one type. A pull takes some seconds and ends with the logs, or with a fault. The
registry finds the connector of a type; of two for one type the later one counts.
-/

namespace LogHarvest

/-- What a pull comes to: how many seconds it takes, and what it ends with. -/
structure Pull where
  seconds : Nat
  answer : Except Fault Bytes

/-- A connector pulls the source of a route. -/
structure Connector (σ : Type) where
  pull : Route → StateM (Scene σ) Pull

/-- The connectors, or whatever else there is one of for each type. -/
structure Registry (α : Type) where
  entries : List (Text × α)
deriving Repr

namespace Registry

variable {α : Type}

/-- The registry of a list of types. -/
def ofList (entries : List (Text × α)) : Registry α := ⟨lastNamed entries⟩

/-- What is registered for a type. -/
def find (r : Registry α) (type : Text) : Except Fault α :=
  match r.entries.lookup type with
  | some a => .ok a
  | none => .error (.unknownConnectorType type)

/-- The types, in the order of their code points. -/
def types (r : Registry α) : List Text := Text.sort (r.entries.map (·.1))

theorem find_eq_ok_iff (r : Registry α) (type : Text) (a : α) :
    r.find type = .ok a ↔ r.entries.lookup type = some a := by
  cases h : r.entries.lookup type <;> simp [find, h]

end Registry

/-- A connector that pulls without taking time. -/
def Connector.immediate {σ : Type} (pull : Route → Act σ Bytes) : Connector σ where
  pull route := do return ⟨0, ← (pull route).run⟩

/-- A connector that does not say how to pull. -/
def Connector.abstract {σ : Type} : Connector σ :=
  .immediate fun _ => throw (.unimplemented (Text.ofString "_pull"))

end LogHarvest
