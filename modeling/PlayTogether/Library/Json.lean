import PlayTogether.Library.Bytes

/-! JSON values, and totals over every value inside one. The text of a value is read and
written by a library outside this development; a reader and a writer stand for it. -/

namespace PlayTogether.Library

/-- A number that is no machine integer keeps its text. -/
inductive Json where
  | null
  | bool (value : Bool)
  | integer (value : Int)
  | float (text : Bytes)
  | string (text : Bytes)
  | array (items : List Json)
  | object (fields : List (Bytes × Json))

namespace Json

def get (key : String) : Json → Option Json
  | .object fields => fields.lookup (ascii key)
  | _ => none

def asStr : Json → Option Bytes
  | .string text => some text
  | _ => none

/-- Integers within the range of a signed 64-bit number. -/
def asI64 : Json → Option Int
  | .integer value => if -2 ^ 63 ≤ value ∧ value < 2 ^ 63 then some value else none
  | _ => none

def text (value : String) : Json := .string (ascii value)

def nullable {α : Type} (write : α → Json) : Option α → Json
  | none => .null
  | some value => write value

/-- A record with its fields in the order of their declaration. -/
def record (fields : List (String × Json)) : Json := .object (fields.map fun (key, value) => (ascii key, value))

end Json

mutual

/-- The compact text of a value whose strings need no escapes. -/
def renderPlain : Json → Bytes
  | .null => ascii "null"
  | .bool value => if value then ascii "true" else ascii "false"
  | .integer value => if value < 0 then [0x2d] ++ decimal value.natAbs else decimal value.natAbs
  | .float text => text
  | .string text => [0x22] ++ text ++ [0x22]
  | .array items => [0x5b] ++ renderItems items ++ [0x5d]
  | .object fields => [0x7b] ++ renderFields fields ++ [0x7d]

def renderItems : List Json → Bytes
  | [] => []
  | [item] => renderPlain item
  | item :: next :: rest => renderPlain item ++ [0x2c] ++ renderItems (next :: rest)

def renderFields : List (Bytes × Json) → Bytes
  | [] => []
  | [(key, value)] => [0x22] ++ key ++ [0x22, 0x3a] ++ renderPlain value
  | (key, value) :: next :: rest =>
    [0x22] ++ key ++ [0x22, 0x3a] ++ renderPlain value ++ [0x2c] ++ renderFields (next :: rest)

end

structure Serde where
  fromSlice : Bytes → Option Json
  toVec : Json → Bytes

/-! ## Totals -/

namespace Json

def keys : Json → List Bytes
  | .object fields => fields.map Prod.fst
  | _ => []

/-- The bytes of text a value holds itself, those of the values inside it apart. -/
def ownText : Json → Nat
  | .string text => text.length
  | .object fields => (fields.map fun (key, _) => key.length).sum
  | _ => 0

end Json

mutual

/-- The value itself at the given depth, and all values inside it below. -/
def jsonNodes (depth : Nat) (value : Json) : List (Nat × Json) :=
  (depth, value) :: match value with
    | .array items => jsonNodesItems (depth + 1) items
    | .object fields => jsonNodesFields (depth + 1) fields
    | .null | .bool _ | .integer _ | .float _ | .string _ => []

def jsonNodesItems (depth : Nat) : List Json → List (Nat × Json)
  | [] => []
  | item :: rest => jsonNodes depth item ++ jsonNodesItems depth rest

def jsonNodesFields (depth : Nat) : List (Bytes × Json) → List (Nat × Json)
  | [] => []
  | (_, value) :: rest => jsonNodes depth value ++ jsonNodesFields depth rest

end

theorem self_mem_jsonNodes (depth : Nat) (value : Json) : (depth, value) ∈ jsonNodes depth value := by
  rw [jsonNodes.eq_def]
  exact List.mem_cons_self

def textTotal (nodes : List (Nat × Json)) : Nat := (nodes.map fun (_, value) => value.ownText).sum

theorem textTotal_cons (node : Nat × Json) (nodes : List (Nat × Json)) :
    textTotal (node :: nodes) = node.2.ownText + textTotal nodes := rfl

theorem textTotal_append (nodes others : List (Nat × Json)) :
    textTotal (nodes ++ others) = textTotal nodes + textTotal others := by
  unfold textTotal
  rw [List.map_append, List.sum_append]

end PlayTogether.Library
