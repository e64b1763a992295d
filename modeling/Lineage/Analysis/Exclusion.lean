import Lineage.Analysis.Basic
import Lineage.Pattern.Reader

/-! # Leaving out namespaces by pattern -/

namespace Lineage

/-- The rule that leaves out the namespaces in which a pattern matches
    somewhere. -/
def Exclusion.ofPattern? (pattern : String) : Option Exclusion :=
  (Pattern.compile pattern).map fun regex => ⟨pattern, regex.isMatch⟩

end Lineage
