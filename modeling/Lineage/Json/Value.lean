/-! # JSON values

    A `Value` keeps of a JSON text what a reader of this library can ask for:
    truth values, texts, lists, records with their fields in order, and sizes,
    which are whole numbers below 2^64 written with digits alone.  Everything
    else that is valid JSON is `unread`: other numbers, a string that holds
    half of a surrogate pair, a record with such a string for a key.  It may
    stand where nothing is read, and fails every reader.

    A `Token` is a piece of JSON text between which white space is free.  A
    value has one sequence of tokens, `Value.tokens`; the two layouts of the
    printer differ in the white space alone. -/

namespace Lineage.Json

/-- What JSON text can say to this library. -/
inductive Value where
  | null
  | bool (b : Bool)
  | size (n : Nat)
  | text (s : String)
  | list (items : List Value)
  | record (fields : List (String × Value))
  /-- Valid, but nothing that is ever read. -/
  | unread
  deriving Repr, Inhabited

/-- A piece of JSON text. -/
inductive Token where
  | openList
  | closeList
  | openRecord
  | closeRecord
  | comma
  | colon
  /-- A string; `none` if it holds half of a surrogate pair. -/
  | string (s : Option String)
  /-- A value of one word: null, a truth value, a number. -/
  | word (v : Value)
  deriving Repr, Inhabited

namespace Value

mutual

/-- The tokens of a value. -/
def tokens : Value → List Token
  | text s => [.string (some s)]
  | list items => .openList :: itemTokens items
  | record fields => .openRecord :: fieldTokens fields
  | v => [.word v]

/-- The tokens of the items of a list, up to the end of the list. -/
def itemTokens : List Value → List Token
  | [] => [.closeList]
  | v :: vs => v.tokens ++ moreItemTokens vs

/-- The tokens after an item of a list. -/
def moreItemTokens : List Value → List Token
  | [] => [.closeList]
  | v :: vs => .comma :: v.tokens ++ moreItemTokens vs

/-- The tokens of the fields of a record, up to the end of the record. -/
def fieldTokens : List (String × Value) → List Token
  | [] => [.closeRecord]
  | (key, v) :: fs => .string (some key) :: .colon :: v.tokens ++ moreFieldTokens fs

/-- The tokens after a field of a record. -/
def moreFieldTokens : List (String × Value) → List Token
  | [] => [.closeRecord]
  | (key, v) :: fs => .comma :: .string (some key) :: .colon :: v.tokens ++ moreFieldTokens fs

end

end Value

end Lineage.Json
