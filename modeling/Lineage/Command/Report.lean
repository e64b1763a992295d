import Lineage.Inspection.Basic

/-! # What the command line prints -/

namespace Lineage.Command

/-- Lines of text, each ended by a line break. -/
def linesText (lines : List String) : String := String.join (lines.map (· ++ "\n"))

/-- A ruler of the given width. -/
def ruler (width : Nat) : String := String.ofList (List.replicate width '=')

/-- A summary as it is printed. -/
def summaryText (s : Summary) : String :=
  linesText <|
    ["Type Relationship Summary:", ruler 60] ++
    (s.modules.map fun m =>
      s!"  {m.name}: {m.tally.processed} processed, {m.tally.skipped} skipped, " ++
        s!"{m.tally.malformed} malformed") ++
    [ruler 60,
      s!"  Types: {s.nodes}",
      s!"  Edges: {s.edges}",
      s!"    DerivesFrom: {s.derivesFrom}",
      s!"    Implements:  {s.implements}"]

/-- What is printed before a search is made. -/
def searchHeading (pattern : String) : String :=
  linesText ["Searching for types matching: \"" ++ pattern ++ "\"", ruler 80]

/-- A type that a search found, as it is printed. -/
def itemLines (item : TypeItem) (number : Nat) : List String :=
  [s!"{number}. {item.name} [{item.incoming} in, {item.outgoing} out]", "   " ++ item.id, ""]

/-- The result of a search as it is printed.  A limit is mentioned when it
    hides something. -/
def searchText (limit? : Option Nat) (r : SearchResult) : String :=
  linesText <|
    [s!"Found {r.total} matching type(s):", ""] ++
    ((limit?.filter (· < r.total)).elim [] fun limit => [s!"Showing first {limit}:", ""]) ++
    (r.items.zipIdx 1).flatMap fun (item, number) => itemLines item number

/-- What is said once a drawing was written to a file. -/
def writtenText (count : Nat) (path : String) : String :=
  linesText [s!"Wrote {count} node(s) to {path}"]

/-- Trouble as it is printed: the outermost attempt, and its causes below. -/
def troubleText (t : Trouble) : String :=
  let causes := match t.causes with
    | [] => []
    | [cause] => ["", "Caused by:", "    " ++ cause]
    | causes => ["", "Caused by:"] ++ causes.zipIdx.map fun (cause, i) => s!"    {i}: {cause}"
  linesText (("Error: " ++ t.outermost) :: causes)

end Lineage.Command
