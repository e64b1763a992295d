/-! # Looking for one text inside another

    `occursIn` decides whether the characters of a text stand, one after the
    other and without gaps, somewhere in another text.  Its law is that it
    decides the infix relation of lists. -/

namespace Lineage.Text

/-- Whether the first list stands in the second without gaps. -/
def occurs (part : List Char) : List Char → Bool
  | [] => part.isEmpty
  | c :: cs => part.isPrefixOf (c :: cs) || occurs part cs

/-- Whether `part` stands somewhere in `whole`. -/
def occursIn (part whole : String) : Bool := occurs part.toList whole.toList

theorem occurs_iff (part whole : List Char) : occurs part whole = true ↔ part <:+: whole := by
  induction whole with
  | nil => simp [occurs]
  | cons c cs ih =>
      rw [occurs, Bool.or_eq_true, ih, List.isPrefixOf_iff_prefix, List.infix_cons_iff]

end Lineage.Text
