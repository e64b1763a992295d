import Lineage.Analysis.Options

/-! # Planning

    Before a type changes the graph, everything it refers to is resolved.  A
    plan depends on the options and the source alone, not on what was analyzed
    before, so a type that fails or takes no part leaves no trace, and working
    on a type again tries the same again. -/

namespace Lineage

/-- The facts of one type that takes part. -/
structure Plan where
  fact : TypeFact
  base? : Option TypeFact
  /-- The interfaces of the type's own. -/
  interfaces : List TypeFact

namespace Options

/-- The facts of the base of a type, unless it has none or it is a root. -/
def planBase (o : Options) (src : FactSource) (fact : TypeFact) :
    Except Failure (Option TypeFact) :=
  match fact.base? with
  | none => .ok none
  | some id => if o.isRoot id then .ok none else (src.resolve id).map some

/-- The ids of the interfaces of a type's own: the listed ones, each once,
    less those that the base lists. -/
def ownInterfaces (fact : TypeFact) (base? : Option TypeFact) : List String :=
  let inherited := base?.elim [] (·.interfaces)
  (fact.interfaces.filter (· ∉ inherited)).eraseDups

/-- What to do about a declared type: `none` if it does not take part, a
    failure if the type, its base or an interface cannot be resolved. -/
def plan (o : Options) (src : FactSource) (id : String) : Except Failure (Option Plan) := do
  let fact ← src.resolve id
  if fact.space?.isNone || o.ignores fact then
    return none
  else
    let base? ← o.planBase src fact
    let interfaces ← (ownInterfaces fact base?).mapM src.resolve
    return some { fact, base?, interfaces }

end Options

end Lineage
