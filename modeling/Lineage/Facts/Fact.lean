import Lineage.Failure

/-! # Type facts and where they come from

    A `TypeFact` is what introspection reports about one type.  A `FactSource`
    declares types and answers for any id, declared by it or not; it is all
    that an analysis ever sees of the outside. -/

namespace Lineage

/-- The raw facts about one type. -/
structure TypeFact where
  id : String
  name : String
  /-- Types that a compiler makes up have none. -/
  space? : Option String := none
  /-- The id of the base type. -/
  base? : Option String := none
  /-- Every interface the type implements, inherited ones included. -/
  interfaces : List String := []
  /-- Why the type, though listed, could not be loaded. -/
  loadError? : Option String := none
  deriving DecidableEq, Repr

/-- The facts of one module. -/
structure ModuleFacts where
  name : String
  types : List TypeFact := []
  deriving DecidableEq, Repr

/-- Declares types and resolves ids to facts. -/
structure FactSource where
  /-- The declared ids, in order of declaration. -/
  declared : List String
  /-- The facts of any id, or why there are none. -/
  resolve : String → Except Failure TypeFact

/-- The identity of a type and what is shown of it.  Two descriptors describe
    one type when their ids agree; name and namespace are information. -/
structure Descriptor where
  id : NodeId
  name : String
  space : String
  deriving DecidableEq, Repr

namespace Descriptor

/-- The descriptor of the type that the facts are about; a type without a
    namespace gets the empty one. -/
def ofFact (fact : TypeFact) : Descriptor := ⟨fact.id, fact.name, fact.space?.getD ""⟩

/-- Whether two descriptors describe the same type. -/
def sameType (a b : Descriptor) : Bool := a.id == b.id

instance : Hashable Descriptor := ⟨fun d => hash d.id⟩

end Descriptor

end Lineage
