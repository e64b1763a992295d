import Lineage.Json.Lexer

/-! # From tokens to values

    The tokens of a JSON text are put together by a machine that takes one
    token at a time and keeps a stack of the lists and records around it, so
    nesting may be as deep as it likes. -/

namespace Lineage.Json

/-- A list or record under construction, with what is finished of it, latest
    first. -/
inductive Frame where
  | list (items : List Value)
  /-- A record whose value under `key` is under construction. -/
  | record (fields : List (Option String × Value)) (key : Option String)

/-- What comes next, and the frames around it, innermost first. -/
inductive Reader where
  /-- A value. -/
  | value (around : List Frame)
  /-- The first item of a list, or its end. -/
  | firstItem (around : List Frame)
  /-- The first key of a record, or its end. -/
  | firstKey (around : List Frame)
  /-- Another key of a record. -/
  | nextKey (fields : List (Option String × Value)) (around : List Frame)
  /-- The colon after a key. -/
  | colon (fields : List (Option String × Value)) (key : Option String) (around : List Frame)
  /-- Whatever may follow a finished value. -/
  | after (v : Value) (around : List Frame)

namespace Reader

/-- A record, unless one of its keys holds half of a surrogate pair. -/
def recordOf (fields : List (Option String × Value)) : Value :=
  match fields.mapM fun (key, v) => key.map fun key => (key, v) with
  | some fields => .record fields
  | none => .unread

/-- Takes the first token of a value. -/
def begin (around : List Frame) : Token → Option Reader
  | .openList => some (.firstItem around)
  | .openRecord => some (.firstKey around)
  | .string (some s) => some (.after (.text s) around)
  | .string none => some (.after .unread around)
  | .word v => some (.after v around)
  | _ => none

/-- Takes a token. -/
def step : Reader → Token → Option Reader
  | value around, t => begin around t
  | firstItem around, .closeList => some (after (.list []) around)
  | firstItem around, t => begin (.list [] :: around) t
  | firstKey around, .closeRecord => some (after (.record []) around)
  | firstKey around, .string key => some (colon [] key around)
  | nextKey fields around, .string key => some (colon fields key around)
  | colon fields key around, .colon => some (value (.record fields key :: around))
  | after v (.list items :: around), .comma => some (value (.list (v :: items) :: around))
  | after v (.list items :: around), .closeList =>
      some (after (.list (v :: items).reverse) around)
  | after v (.record fields key :: around), .comma => some (nextKey ((key, v) :: fields) around)
  | after v (.record fields key :: around), .closeRecord =>
      some (after (recordOf ((key, v) :: fields).reverse) around)
  | _, _ => none

/-- The value, if the tokens can end here. -/
def finish : Reader → Option Value
  | after v [] => some v
  | _ => none

end Reader

/-- The value that tokens make up. -/
def assemble (ts : List Token) : Option Value :=
  (ts.foldlM Reader.step (.value [])).bind Reader.finish

/-- The value of a JSON text. -/
def parse (text : String) : Option Value := (tokenize text).bind assemble

end Lineage.Json
