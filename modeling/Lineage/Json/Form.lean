import Lineage.Ident
import Lineage.Json.Printer
import Lineage.Json.Reader

/-! # JSON forms

    A `Form` ties a type to JSON: how a value of the type is read and how it
    is written.  Forms are put together from forms of parts.

    A record is read from a JSON record or from a list of its fields in order
    of declaration.  In a record, fields come in any order, a field twice is
    refused, and unknown fields are skipped.  In a list, only fields with a
    default may be left out, from the end; too many items are refused. -/

namespace Lineage.Json

/-- How a type is read from JSON and written to it. -/
structure Form (α : Type) where
  read : Value → Option α
  write : α → Value

/-- Whether a field may be left out. -/
inductive Presence where
  /-- It may not. -/
  | required
  /-- It may, but only by name. -/
  | optional
  /-- It may, and something else takes its place. -/
  | defaulted
  deriving DecidableEq, Repr

/-- A field of a record. -/
structure Field where
  name : String
  presence : Presence
  deriving DecidableEq, Repr

namespace Field

/-- A field that must be there. -/
def must (name : String) : Field := ⟨name, .required⟩

/-- A field that may be left out by name. -/
def may (name : String) : Field := ⟨name, .optional⟩

/-- A field that has a default. -/
def orDefault (name : String) : Field := ⟨name, .defaulted⟩

/-- What a record gives for a field; `none` on the outside if the field is
    missing or repeated. -/
def inRecord (given : List (String × Value)) (f : Field) : Option (Option Value) :=
  match given.filter (·.1 == f.name) with
  | [] => if f.presence = .required then none else some none
  | [(_, v)] => some (some v)
  | _ => none

/-- What a list gives for the fields in order. -/
def inList : List Field → List Value → Option (List (Option Value))
  | [], [] => some []
  | [], _ :: _ => none
  | f :: fs, [] => if f.presence = .defaulted then (inList fs []).map (none :: ·) else none
  | _ :: fs, v :: vs => (inList fs vs).map (some v :: ·)

end Field

/-- What a value gives for the fields of a record in order: for each field its
    value, or `none` if it was left out. -/
def Value.fields? (fs : List Field) : Value → Option (List (Option Value))
  | .record given => fs.mapM (Field.inRecord given)
  | .list given => Field.inList fs given
  | _ => none

namespace Form

variable {α β : Type}

/-- Reads a field that must be there. -/
def readField (f : Form α) : Option Value → Option α
  | some v => f.read v
  | none => none

/-- Reads a field that has a default. -/
def readOr (f : Form α) (default : α) : Option Value → Option α
  | some v => f.read v
  | none => some default

/-- Texts. -/
def text : Form String where
  read
    | .text s => some s
    | _ => none
  write := .text

/-- Sizes. -/
def size : Form Nat where
  read
    | .size n => some n
    | _ => none
  write := .size

/-- Truth values. -/
def bool : Form Bool where
  read
    | .bool b => some b
    | _ => none
  write := .bool

/-- Values that may be missing, and are null then. -/
def option (f : Form α) : Form (Option α) where
  read
    | .null => some none
    | v => (f.read v).map some
  write
    | none => .null
    | some a => f.write a

/-- Lists. -/
def list (f : Form α) : Form (List α) where
  read
    | .list items => items.mapM f.read
    | _ => none
  write as := .list (as.map f.write)

/-- Pairs, as lists of two. -/
def pair (f : Form α) (g : Form β) : Form (α × β) where
  read
    | .list [a, b] => do return (← f.read a, ← g.read b)
    | _ => none
  write p := .list [f.write p.1, g.write p.2]

/-- Tables, as records in order of their keys; of two fields of one name the
    later counts. -/
def table (f : Form α) : Form (Table α) where
  read
    | .record fields => do
        let entries ← fields.mapM fun (key, v) => return (key, ← f.read v)
        return entries.foldl (fun t (key, a) => t.insert key a) ∅
    | _ => none
  write t := .record (t.toList.map fun (key, a) => (key, f.write a))

/-- Values that go by a name, given by the name alone or by a record that has
    null under it. -/
def named (names : List (String × α)) (nameOf : α → String) : Form α where
  read
    | .text s => names.lookup s
    | .record [(s, .null)] => names.lookup s
    | _ => none
  write a := .text (nameOf a)

/-- Reads a JSON text. -/
def parse (f : Form α) (text : String) : Option α := (Json.parse text).bind f.read

/-- Writes without white space. -/
def compact (f : Form α) (a : α) : String := Json.compact (f.write a).tokens

/-- Writes with items and fields on lines of their own. -/
def pretty (f : Form α) (a : α) : String := Json.pretty (f.write a).tokens

end Form

end Lineage.Json
