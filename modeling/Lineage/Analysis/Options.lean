import Lineage.Facts.Fact

/-! # How to analyze

    Options say which types take no part.  The standard library is a namespace
    together with the namespaces nested in it; an exclusion is any predicate
    on namespaces.  Roots are told by id alone, and only as a base. -/

namespace Lineage

/-- A rule that leaves out namespaces. -/
structure Exclusion where
  /-- How the rule is written. -/
  pattern : String
  /-- Whether the rule leaves a namespace out. -/
  excludes : String → Bool

/-- How to analyze. -/
structure Options where
  /-- Leave out the types of the standard library. -/
  ignoreStd : Bool := false
  /-- The namespace of the standard library; those nested in it belong to it. -/
  stdNamespace : String := "System"
  /-- The types that every type derives from; as a base they get no edge. -/
  roots : List String := ["System.Object", "System.ValueType", "System.Enum"]
  /-- More namespaces to leave out. -/
  exclude? : Option Exclusion := none

namespace Options

/-- Whether a namespace is the one of the standard library or nested in it. -/
def isStd (o : Options) (space : String) : Bool :=
  space == o.stdNamespace || (o.stdNamespace.toList ++ ['.']).isPrefixOf space.toList

/-- Whether types of a namespace are left out. -/
def ignoresSpace (o : Options) (space : String) : Bool :=
  (o.ignoreStd && o.isStd space) || o.exclude?.any (·.excludes space)

/-- Whether a type is left out; one without a namespace is not. -/
def ignores (o : Options) (fact : TypeFact) : Bool := fact.space?.any o.ignoresSpace

/-- Whether an id is that of a root. -/
def isRoot (o : Options) (id : String) : Bool := id ∈ o.roots

end Options

end Lineage
