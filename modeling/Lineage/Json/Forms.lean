import Lineage.Facts.Fact
import Lineage.Inspection.Exchange
import Lineage.Json.Form

/-! # The JSON forms of this library's types

    Fields are written in the order of declaration, and a load error only if
    there is one. -/

namespace Lineage.Json.Form

/-- The facts of a type. -/
def typeFact : Form TypeFact where
  read v := do
    match ← v.fields? [.must "id", .must "name", .orDefault "namespace", .orDefault "base_type",
        .orDefault "interfaces", .orDefault "load_error"] with
    | [id, name, space, base, interfaces, loadError] =>
        return {
          id := ← text.readField id
          name := ← text.readField name
          space? := ← text.option.readOr none space
          base? := ← text.option.readOr none base
          interfaces := ← text.list.readOr [] interfaces
          loadError? := ← text.option.readOr none loadError }
    | _ => none
  write a := .record <|
    [("id", .text a.id), ("name", .text a.name), ("namespace", text.option.write a.space?),
      ("base_type", text.option.write a.base?), ("interfaces", text.list.write a.interfaces)] ++
    (a.loadError?.elim [] fun reason => [("load_error", .text reason)])

/-- The facts of a module. -/
def moduleFacts : Form ModuleFacts where
  read v := do
    match ← v.fields? [.must "name", .orDefault "types"] with
    | [name, types] => return ⟨← text.readField name, ← typeFact.list.readOr [] types⟩
    | _ => none
  write a := .record [("name", .text a.name), ("types", typeFact.list.write a.types)]

/-- The modules of a catalog. -/
def modules : Form (List ModuleFacts) where
  read v := do
    match ← v.fields? [.orDefault "modules"] with
    | [modules] => moduleFacts.list.readOr [] modules
    | _ => none
  write a := .record [("modules", moduleFacts.list.write a)]

/-- Descriptors. -/
def descriptor : Form Descriptor where
  read v := do
    match ← v.fields? [.must "id", .must "name", .must "namespace"] with
    | [id, name, space] =>
        return ⟨← text.readField id, ← text.readField name, ← text.readField space⟩
    | _ => none
  write a := .record [("id", .text a.id), ("name", .text a.name), ("namespace", .text a.space)]

/-- Kinds of edges. -/
def edgeKind : Form EdgeKind :=
  named [("DerivesFrom", .derivesFrom), ("Implements", .implements)] fun
    | .derivesFrom => "DerivesFrom"
    | .implements => "Implements"

/-- The kinds of the edges of a graph. -/
def edgeKinds : Form EdgeKinds := edgeKind.table

/-- Captions. -/
def caption : Form Caption where
  read v := do
    match ← v.fields? [.must "owner_id", .must "display_text"] with
    | [owner, shown] => return ⟨← text.readField owner, ← text.readField shown⟩
    | _ => none
  write a := .record [("owner_id", .text a.owner), ("display_text", .text a.text)]

/-- Fill colors. -/
def nodeStyle : Form NodeStyle where
  read v := do
    match ← v.fields? [.must "owner_id", .must "fill_color"] with
    | [owner, color] => return ⟨← text.readField owner, ← text.readField color⟩
    | _ => none
  write a := .record [("owner_id", .text a.owner), ("fill_color", .text a.fillColor)]

/-- Line colors. -/
def edgeStyle : Form EdgeStyle where
  read v := do
    match ← v.fields? [.must "owner_id", .must "color"] with
    | [owner, color] => return ⟨← text.readField owner, ← text.readField color⟩
    | _ => none
  write a := .record [("owner_id", .text a.owner), ("color", .text a.color)]

/-- What is kept of a document. -/
def documentExport : Form DocumentExport where
  read v := do
    match ← v.fields? [.must "nodes", .must "edges", .must "clusters", .must "captions",
        .must "node_styles", .must "edge_styles", .must "edge_kinds"] with
    | [nodes, edges, clusters, captions, nodeStyles, edgeStyles, kinds] =>
        return {
          nodes := ← text.list.readField nodes
          edges := ← (pair text text).list.readField edges
          clusters := ← text.list.table.readField clusters
          captions := ← caption.list.readField captions
          nodeStyles := ← nodeStyle.list.readField nodeStyles
          edgeStyles := ← edgeStyle.list.readField edgeStyles
          edgeKinds := ← edgeKinds.readField kinds }
    | _ => none
  write a := .record
    [("nodes", text.list.write a.nodes), ("edges", (pair text text).list.write a.edges),
      ("clusters", text.list.table.write a.clusters), ("captions", caption.list.write a.captions),
      ("node_styles", nodeStyle.list.write a.nodeStyles),
      ("edge_styles", edgeStyle.list.write a.edgeStyles),
      ("edge_kinds", edgeKinds.write a.edgeKinds)]

/-- Which nodes count as dangling. -/
def danglingMode : Form DanglingMode :=
  named [("All", .all), ("Incomings", .incomings), ("Outgoings", .outgoings)] fun
    | .all => "All"
    | .incomings => "Incomings"
    | .outgoings => "Outgoings"

/-- Which dangling nodes to hide. -/
def danglingFilter : Form DanglingFilter :=
  named DanglingFilter.names DanglingFilter.name

/-- Requests for a drawing. -/
def renderRequest : Form RenderRequest where
  read v := do
    match ← v.fields? [.may "type_id", .orDefault "cluster_by_namespace",
        .orDefault "drop_dangling", .orDefault "ignore_style", .may "fast_rendering_limit"] with
    | [root, cluster, drop, plain, limit] =>
        return {
          root? := ← text.option.readOr none root
          clusterByNamespace := ← bool.readOr false cluster
          dropDangling := ← danglingFilter.readOr none drop
          plain := ← bool.readOr false plain
          fastLimit := ← size.option.readOr none limit }
    | _ => none
  write a := .record
    [("type_id", text.option.write a.root?), ("cluster_by_namespace", .bool a.clusterByNamespace),
      ("drop_dangling", danglingFilter.write a.dropDangling), ("ignore_style", .bool a.plain),
      ("fast_rendering_limit", size.option.write a.fastLimit)]

/-- Drawings as text. -/
def renderResponse : Form RenderResponse where
  read v := do
    match ← v.fields? [.must "dot", .must "visible_node_count", .must "node_count",
        .must "edge_count"] with
    | [dot, visible, nodes, edges] =>
        return ⟨← text.readField dot, ← size.readField visible, ← size.readField nodes,
          ← size.readField edges⟩
    | _ => none
  write a := .record
    [("dot", .text a.dot), ("visible_node_count", .size a.visibleNodes),
      ("node_count", .size a.nodes), ("edge_count", .size a.edges)]

/-- What became of the types of a module. -/
def moduleSummary : Form ModuleSummary where
  read v := do
    match ← v.fields? [.must "name", .must "processed", .must "skipped", .must "malformed"] with
    | [name, processed, skipped, malformed] =>
        return ⟨← text.readField name, ← size.readField processed, ← size.readField skipped,
          ← size.readField malformed⟩
    | _ => none
  write a := .record
    [("name", .text a.name), ("processed", .size a.tally.processed),
      ("skipped", .size a.tally.skipped), ("malformed", .size a.tally.malformed)]

/-- Summaries. -/
def summary : Form Summary where
  read v := do
    match ← v.fields? [.must "modules", .must "node_count", .must "edge_count",
        .must "derives_from_count", .must "implements_count"] with
    | [modules, nodes, edges, derivesFrom, implements] =>
        return ⟨← moduleSummary.list.readField modules, ← size.readField nodes,
          ← size.readField edges, ← size.readField derivesFrom, ← size.readField implements⟩
    | _ => none
  write a := .record
    [("modules", moduleSummary.list.write a.modules), ("node_count", .size a.nodes),
      ("edge_count", .size a.edges), ("derives_from_count", .size a.derivesFrom),
      ("implements_count", .size a.implements)]

/-- Types that a search found. -/
def typeItem : Form TypeItem where
  read v := do
    match ← v.fields? [.must "id", .must "name", .must "namespace", .must "incoming",
        .must "outgoing"] with
    | [id, name, space, incoming, outgoing] =>
        return ⟨← text.readField id, ← text.readField name, ← text.readField space,
          ← size.readField incoming, ← size.readField outgoing⟩
    | _ => none
  write a := .record
    [("id", .text a.id), ("name", .text a.name), ("namespace", .text a.space),
      ("incoming", .size a.incoming), ("outgoing", .size a.outgoing)]

/-- Results of a search. -/
def searchResult : Form SearchResult where
  read v := do
    match ← v.fields? [.must "items", .must "total_matches"] with
    | [items, total] => return ⟨← typeItem.list.readField items, ← size.readField total⟩
    | _ => none
  write a := .record
    [("items", typeItem.list.write a.items), ("total_matches", .size a.total)]

end Lineage.Json.Form
