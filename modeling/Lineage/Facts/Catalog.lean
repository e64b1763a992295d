import Lineage.Event
import Lineage.Facts.Fact
import Lineage.Text.Blank
import Lineage.Text.Search

/-! # Catalogs of type facts

    A catalog holds the facts of several modules and resolves ids across all
    of them.  A type belongs to the first module that declares it, in the
    order of the modules and of their types; later declarations of its id are
    reported and otherwise ignored.

    Resolving checks that the facts can be used at all.  Ids join ends in the
    ids of edges, so an id must not hold an arrow. -/

namespace Lineage

/-- Where a declaration stands: the position of its module, and its own
    position there. -/
abbrev Place := Nat × Nat

/-- The facts of several modules. -/
structure Catalog where
  modules : List ModuleFacts
  /-- The place of the first declaration of each id. -/
  index : Table Place

namespace Catalog

/-- All declarations with their module's name and their place, in order. -/
def declarations (modules : List ModuleFacts) : List (String × TypeFact × Place) :=
  modules.zipIdx.flatMap fun (m, i) => m.types.zipIdx.map fun (fact, j) => (m.name, fact, (i, j))

/-- The place of the first declaration of each id. -/
def indexOf (modules : List ModuleFacts) : Table Place :=
  (declarations modules).foldl (fun index (_, fact, place) => index.insertIfNew fact.id place) ∅

/-- The reports on declarations of ids that were declared before; `known`
    holds the ids of earlier declarations. -/
def redeclarations (known : List String) : List (String × TypeFact × Place) → List Event
  | [] => []
  | (moduleName, fact, _) :: rest =>
      if fact.id ∈ known then .redeclared fact.id moduleName :: redeclarations known rest
      else redeclarations (fact.id :: known) rest

/-- The catalog of some modules. -/
def ofModules (modules : List ModuleFacts) : Catalog := ⟨modules, indexOf modules⟩

/-- Makes the catalog of some modules and reports ids declared again. -/
def ofModulesReported (modules : List ModuleFacts) : Logged Catalog :=
  ⟨ofModules modules, redeclarations [] (declarations modules)⟩

/-- How many different ids are declared. -/
def typeCount (c : Catalog) : Nat := c.index.size

/-- The facts that stand at a place. -/
def factAt? (c : Catalog) (place : Place) : Option TypeFact :=
  c.modules[place.1]? >>= (·.types[place.2]?)

/-- Why facts cannot be used, if they cannot. -/
def defect? (fact : TypeFact) : Option String :=
  match fact.loadError? with
  | some reason => some reason
  | none =>
      if Text.isBlank fact.id then some "type has no id"
      else if Text.occursIn arrow fact.id then some s!"type id contains `{arrow}`"
      else if Text.isBlank fact.name then some "type has no name"
      else none

/-- The usable facts of a type of any module. -/
def resolve (c : Catalog) (id : String) : Except Failure TypeFact :=
  match c.index[id]? >>= c.factAt? with
  | none => .error (.unknownType id)
  | some fact =>
      match defect? fact with
      | some reason => .error (.malformedFact id reason)
      | none => .ok fact

/-- A module as a source: it declares its own types and resolves like the
    catalog. -/
def source (c : Catalog) (m : ModuleFacts) : FactSource where
  declared := m.types.map (·.id)
  resolve := c.resolve

/-- The first module of that name. -/
def findModule? (c : Catalog) (name : String) : Option ModuleFacts :=
  c.modules.find? (·.name = name)

end Catalog

end Lineage
