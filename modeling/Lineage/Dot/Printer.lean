import Lineage.Dot.Drawing
import Lineage.Dot.Quoted

/-! # Drawings as DOT text

    A drawing is written line by line: what it asks of the layout, its blocks,
    its other nodes, its edges.

    ```text
    digraph {
      ratio="compress"
      rankdir=BT
      ranksep="2.0 equally"
      subgraph "cluster_Acme" {
        label = "Acme"
        "Acme.Shape" [label="Shape", color=LightGray]
      }
      "Acme.Circle" [label="Circle", color=LightGray]
      "Acme.Circle" -> "Acme.Shape" [label=".", color=Black]
    }
    ```

    Names and labels are quoted, so none of them can end its line; colors are
    written as they are. -/

namespace Lineage

/-- The attributes of a node or an edge. -/
def attributes (label : String) (color : Option String) : String :=
  " [label=" ++ Dot.quoted label ++ (color.elim "" (", color=" ++ ·)) ++ "]"

/-- The line of a node. -/
def NodeEntry.line (n : NodeEntry) : String := Dot.quoted n.id ++ attributes n.label n.color

/-- The line of an edge. -/
def EdgeEntry.line (e : EdgeEntry) : String :=
  Dot.quoted e.source ++ " -> " ++ Dot.quoted e.target ++ attributes e.label e.color

/-- One step of indentation. -/
def indent (line : String) : String := "  " ++ line

/-- The lines of a block. -/
def Block.lines (b : Block) : List String :=
  ["subgraph " ++ Dot.quoted b.id ++ " \x7b", indent ("label = " ++ Dot.quoted b.label)] ++
    b.nodes.map (fun n => indent n.line) ++ ["\x7d"]

namespace Drawing

/-- What every drawing asks of the layout. -/
def layoutLines : List String :=
  ["ratio=\"compress\"", "rankdir=BT", "ranksep=\"2.0 equally\""]

/-- What a drawing asks of the layout when speed matters more than looks. -/
def hintLines : List String := ["nslimit=0.2", "nslimit1=0.2", "splines=line", "mclimit=0.5"]

/-- The lines between the braces. -/
def body (d : Drawing) : List String :=
  layoutLines ++ (if d.hints then hintLines else []) ++ d.blocks.flatMap Block.lines ++
    d.nodes.map NodeEntry.line ++ d.edges.map EdgeEntry.line

/-- The lines of a drawing. -/
def lines (d : Drawing) : List String := ["digraph \x7b"] ++ d.body.map indent ++ ["\x7d"]

/-- The DOT text of a drawing: its lines, each ended by a line break. -/
def text (d : Drawing) : String := String.join (d.lines.map (· ++ "\n"))

end Drawing

namespace Presentation

/-- The DOT text of a presentation and the number of its visible nodes. -/
def render (p : Presentation) (o : DrawOptions) : Except Failure (String × Nat) := do
  return ((← p.draw o).text, p.visibleNodes.length)

end Presentation

end Lineage
