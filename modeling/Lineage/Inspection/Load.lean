import Lineage.Inspection.Basic
import Lineage.Json.Forms

/-! # Catalogs as JSON, and inspections of catalog files -/

namespace Lineage

namespace Catalog

/-- The catalog that a JSON text holds. -/
def ofJson (text : String) : Inquiry Catalog :=
  match Json.Form.modules.parse text with
  | some modules => .ofLogged (ofModulesReported modules)
  | none => throw (.during "Failed to parse type fact catalog JSON" .unreadableText)

/-- The JSON text of a catalog. -/
def toJson (c : Catalog) : String := Json.Form.modules.pretty c.modules

end Catalog

/-- Reads a file as text. -/
def Files.readText {m : Type → Type} [Monad m] (files : Files m) (path : String) :
    m (Option String) :=
  return (← files.read path).bind String.fromUTF8?

/-- The catalog that a file holds. -/
def Catalog.load {m : Type → Type} [Monad m] (files : Files m) (path : String) :
    m (Inquiry Catalog) := do
  match ← files.readText path with
  | some text => return Catalog.ofJson text
  | none =>
      return throw (.during s!"Failed to read type fact catalog: {path}" .unreadableFile)

/-- Inspects the catalog that a file holds. -/
def Inspection.load {m : Type → Type} [Monad m] (files : Files m) (o : Options) (path : String) :
    m (Inquiry Inspection) := do
  let catalog ← Catalog.load files path
  return do Inquiry.ofLogged (Inspection.ofCatalog o (← catalog))

end Lineage
