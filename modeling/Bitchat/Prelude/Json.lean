import Bitchat.Prelude.Runtime

/-! `serde_json::Value` as far as the modelled code reads and builds it: `get` with a string
key, the typed views `as_str`, `as_bool` and `as_u64`, and the values `serde_json::to_value`
gives the field types of the serialized records. A number is one of `serde_json`'s three
representations; the value of a float is not modelled, since no modelled code reads one. An
object lists its entries with each key once, in the order the serializer wrote them;
`serde_json`'s `Map` may keep them sorted by key instead, which no reader here can tell apart,
since `get` looks an entry up by its key. -/

namespace Bitchat.Json

inductive Number
  /-- A non-negative integer, which `as_u64` returns. -/
  | posInt (n : UInt64)
  | negInt (n : Int)
  | float

inductive Value
  | null
  | bool (b : Bool)
  | number (n : Number)
  | string (s : String)
  | array (elements : List Value)
  | object (entries : List (String × Value))

namespace Value

/-- `value.get(key)`: the entry of an object, `None` for any other value. -/
def get (v : Value) (key : String) : Option Value :=
  match v with
  | .object entries => entries.lookup key
  | _ => none

def asStr : Value → Option String
  | .string s => some s
  | _ => none

def asBool : Value → Option Bool
  | .bool b => some b
  | _ => none

def asU64 : Value → Option UInt64
  | .number (.posInt n) => some n
  | _ => none

/-- `json.get(key).and_then(|v| v.as_str())`, and the same for the other views. -/
def getStr (v : Value) (key : String) : Option String := (v.get key).bind asStr

def getBool (v : Value) (key : String) : Option Bool := (v.get key).bind asBool

def getU64 (v : Value) (key : String) : Option UInt64 := (v.get key).bind asU64

/-- An unsigned integer of any width, widened to `u64`. -/
def ofU64 (n : UInt64) : Value := .number (.posInt n)

/-- An `f32`, given by its IEEE 754 bits: a finite value is a float, and NaN and the
infinities, whose exponent bits are all set, are `null`. -/
def ofF32 (bits : UInt32) : Value :=
  if bits >>> 23 &&& 0xFF = 0xFF then .null else .number .float

/-- An `Option`, whose `None` is `null`. -/
def ofOption {α : Type} (f : α → Value) : Option α → Value
  | some a => f a
  | none => .null

/-- A `HashMap` with `String` keys, as an object in the order of its entries. -/
def ofMap {V : Type} (f : V → Value) (m : DashMap String V) : Value :=
  .object (m.entries.map fun e => (e.1, f e.2))

end Value

end Bitchat.Json
