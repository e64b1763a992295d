import Lineage.Dot.Printer
import Lineage.Folder

/-! # Where a drawing goes

    The DOT text of a presentation is written piece by piece to an `Outlet`,
    which may refuse a piece; the first refusal ends the writing.  Nothing is
    put together beforehand: what the clusters before have written is kept in a
    list of nodes, so that no node is written twice.

    Two outlets are at hand.  A `Sink` takes bytes until its room is used up,
    and then refuses.  A buffer takes everything; what it holds in the end is
    made the content of a file. -/

namespace Lineage

/-- The bytes of a text. -/
def bytesOf (text : String) : List UInt8 := text.toUTF8.data.toList

/-- A place that takes pieces of text in the order they are handed to it, and
    may refuse one. -/
abbrev Outlet (m : Type → Type) := String → ExceptT Failure m Unit

/-- Everything is taken, after what was there before. -/
def buffer : Outlet (StateM String) := fun piece => modify (· ++ piece)

/-- A place that takes a limited number of bytes. -/
structure Sink where
  /-- How many more bytes it takes. -/
  room : Nat
  /-- What it has taken so far. -/
  taken : List UInt8 := []
  deriving DecidableEq, Repr

namespace Sink

/-- What a sink without room says. -/
def fullReason : String := "disk full"

/-- Hands bytes to a sink, which takes what fits, and says whether that was
    everything. -/
def offer (s : Sink) (bytes : List UInt8) : Sink × Bool :=
  (⟨s.room - bytes.length, s.taken ++ bytes.take s.room⟩, bytes.length ≤ s.room)

/-- A sink takes the bytes of a piece, or refuses it when they do not all fit. -/
def outlet : Outlet (StateM Sink) := fun piece => do
  let (s, whole) := (← get).offer (bytesOf piece)
  set s
  unless whole do throw (.outputRefused fullReason)

end Sink

namespace Presentation

section Writing

variable {m : Type → Type} [Monad m] (p : Presentation) (o : DrawOptions) (out : Outlet m)

/-- Writes lines that are indented once. -/
def writeLines (lines : List String) : ExceptT Failure m Unit :=
  lines.forM fun line => out (indent line ++ "\n")

/-- Writes the line of a node or an edge: what stands before the attributes, a
    label, and a color unless colors are left out. -/
def writeEntry (head label color : String) : ExceptT Failure m Unit := do
  out (head ++ " [label=" ++ Dot.quoted label)
  unless o.plain do
    out (", color=" ++ color)
  out "]\n"

/-- Writes the line of a node. -/
def writeNode (margin : String) (id : NodeId) : ExceptT Failure m Unit :=
  writeEntry o out (margin ++ Dot.quoted id) (p.caption id).text (p.nodeStyle id).fillColor

/-- Writes the line of an edge. -/
def writeEdge (e : Edge) : ExceptT Failure m Unit :=
  writeEntry o out (indent (Dot.quoted e.source ++ " -> " ++ Dot.quoted e.target))
    (if (p.caption e.id).isDefault then "." else (p.caption e.id).text) (p.edgeStyle e.id).color

/-- Writes a node unless it was written already, and gives all nodes that are
    written. -/
def writeOnce (margin : String) (written : List NodeId) (id : NodeId) :
    ExceptT Failure m (List NodeId) := do
  if id ∈ written then
    return written
  else
    p.writeNode o out margin id
    return written ++ [id]

/-- Writes the block of a cluster that has visible members, and gives all nodes
    that are written. -/
def writeCluster (written : List NodeId) (c : Cluster) : ExceptT Failure m (List NodeId) := do
  let members ← p.visibleMembers c
  if members.isEmpty then
    return written
  else
    out (indent ("subgraph " ++ Dot.quoted (blockName c.id) ++ " \x7b") ++ "\n")
    out (indent (indent ("label = " ++ Dot.quoted (p.caption c.id).text)) ++ "\n")
    let written ← members.foldlM (p.writeOnce o out (indent (indent ""))) written
    out (indent "\x7d" ++ "\n")
    return written

/-- Writes the DOT text of a presentation, and gives the number of visible nodes. -/
def write : ExceptT Failure m Nat := do
  let visible := p.visibleNodes
  out "digraph \x7b\n"
  writeLines out Drawing.layoutLines
  writeLines out (if o.fastLimit.any (· < visible.length) then Drawing.hintLines else [])
  let written ← p.graph.clusters.foldlM (p.writeCluster o out) []
  let _ ← visible.foldlM (p.writeOnce o out (indent "")) written
  p.visibleEdges.forM (p.writeEdge o out)
  out "\x7d\n"
  return visible.length

end Writing

/-- Writes the DOT text of a presentation into a sink, and gives the number of
    visible nodes if the sink took it all. -/
def writeTo (p : Presentation) (o : DrawOptions) (s : Sink) : Sink × Except Failure Nat :=
  let (result, s) := (p.write o Sink.outlet).run.run s
  (s, result)

/-- Writes the DOT text of a presentation to a file, in place of its content,
    and gives the number of visible nodes. -/
def writeFile {m : Type → Type} [Monad m] (files : Files m) (p : Presentation) (o : DrawOptions)
    (path : String) : m (Except Failure Nat) := do
  let (result, text) := (p.write o buffer).run.run ""
  match result with
  | .error f => return .error f
  | .ok count =>
      if ← files.write path text then return .ok count else return .error .outputUnavailable

end Presentation

end Lineage
