import LogHarvest.Catalog.Source
import LogHarvest.Journal
import LogHarvest.Text.Named

/-!
# Routing

A worker knows the sources that it may pull: those of an accepted type for which it holds a secret reference. Of
several sources with one name the last acceptable one counts. A `Route` is all that a connector needs to pull a
source; its properties are the texts among the declared ones, and its type is always one of them.
-/

namespace LogHarvest

/-- All that a connector needs to pull a source. -/
structure Route where
  secretRef : Text
  type : Text
  properties : List (Text × Text)
deriving DecidableEq, Repr, Inhabited

/-- The routes by the name of their source, in the order in which the names first appeared. -/
structure Routing where
  routes : List (Text × Route)
deriving DecidableEq, Repr

namespace Route

/-- The name of the property that holds the type. -/
def typeProperty : Text := Text.ofString "log_source_type"

/-- An entry of a mapping whose key and value are texts. -/
def textEntry? : Value × Value → Option (Text × Text)
  | (.text k, .text v) => some (k, v)
  | _ => none

/-- The properties of a source of the given type. -/
def propertiesOf (properties : List (Value × Value)) (type : Text) : List (Text × Text) :=
  putNamed (properties.filterMap textEntry?) typeProperty type

/-- A property of the route. -/
def property? (r : Route) (name : Text) : Option Text := r.properties.lookup name

end Route

namespace Routing

/-- The route of a source with the given secret reference. -/
def routeOf (source : LogSource) (arn : Text) : Route :=
  ⟨arn, source.type, Route.propertiesOf source.properties source.type⟩

/-- Adds the source to the routes if its type is accepted and a secret reference is known for it. -/
def add (types : List Text) (arns : List (Text × Text)) (routes : List (Text × Route)) (source : LogSource) :
    Noted (List (Text × Route)) := do
  if !types.contains source.type then return routes
  match arns.lookup source.name with
  | some (s :: arn) => return putNamed routes source.name (routeOf source (s :: arn))
  | _ =>
    Noted.note .debug .routing
      (Text.ofString "no secret arn configured for log_source: " ++ source.name ++ Text.ofString ", skipping")
    return routes

/-- The routes of a catalog. -/
def ofCatalog (sources : List LogSource) (types : List Text) (arns : List (Text × Text)) : Noted Routing := do
  return ⟨← sources.foldlM (add types arns) []⟩

/-- The route of a source. -/
def find? (r : Routing) (name : Text) : Option Route := r.routes.lookup name

/-- The names of the sources, in the order of their code points. -/
def names (r : Routing) : List Text := Text.sort (r.routes.map (·.1))

/-- How many sources there are. -/
def size (r : Routing) : Nat := r.routes.length

end Routing

end LogHarvest
