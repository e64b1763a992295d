/-! # Counting what became of declared types -/

namespace Lineage

/-- How many declared types were taken up, left out, or could not be used. -/
structure Tally where
  processed : Nat := 0
  skipped : Nat := 0
  malformed : Nat := 0
  deriving DecidableEq, Repr

/-- All declared types that were counted. -/
def Tally.total (t : Tally) : Nat := t.processed + t.skipped + t.malformed

end Lineage
