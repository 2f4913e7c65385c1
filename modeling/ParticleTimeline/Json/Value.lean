import ParticleTimeline.Table
import ParticleTimeline.Number.Binary
/-!
# JSON values

A JSON value as it is read and written. An object keeps its entries in the
order of its text, repeated names included; `canonical` is the form that a
free-form value is kept in, with the entries of every object in order of
their names and the last of a repeated name winning. A number keeps its
kind: a whole number within 64 bits stays whole, all others are doubles; a
single occurs only in values that are about to be written.
-/

namespace ParticleTimeline

/-- A JSON number, by kind. -/
inductive JsonNumber where
  /-- A whole number that is not negative. -/
  | natural (n : UInt64)
  /-- A whole number below zero. -/
  | negative (n : Int64)
  | double (x : Float)
  | single (x : Float32)
deriving DecidableEq

/-- A JSON value. -/
inductive Json where
  | null
  | bool (b : Bool)
  | number (n : JsonNumber)
  | text (s : String)
  | array (items : List Json)
  | object (entries : List (String × Json))
deriving BEq

namespace JsonNumber

/-- The number as a double. -/
def toDouble : JsonNumber → Float
  | natural n => n.toFloat
  | negative n => -(-n).toUInt64.toFloat
  | double x => x
  | single x => Binary.widen x

/-- The number as a single, rounded once from what was read. -/
def toSingle : JsonNumber → Float32
  | natural n => n.toFloat32
  | negative n => -(-n).toUInt64.toFloat32
  | double x => Binary.narrow x
  | single x => x

end JsonNumber

namespace Json

def nat (n : Nat) : Json := .number (.natural (UInt64.ofNat n))
def word (n : UInt32) : Json := .number (.natural n.toUInt64)
def double (x : Float) : Json := .number (.double x)
def single (x : Float32) : Json := .number (.single x)

mutual

/-- The form of a free-form value: sorted objects, the last entry of a name
winning, and no single but its double. -/
def canonical : Json → Json
  | .null => .null
  | .bool b => .bool b
  | .number (.single x) => .number (.double (Binary.widen x))
  | .number n => .number n
  | .text s => .text s
  | .array items => .array (canonicalItems items)
  | .object entries => .object (Table.ofList (canonicalEntries entries))

def canonicalItems : List Json → List Json
  | [] => []
  | v :: rest => canonical v :: canonicalItems rest

def canonicalEntries : List (String × Json) → List (String × Json)
  | [] => []
  | (name, v) :: rest => (name, canonical v) :: canonicalEntries rest

end

/-- The value of a name in an object; of a repeated name, the last. -/
def member? (name : String) : Json → Option Json
  | .object entries => entries.reverse.lookup name
  | _ => none

end Json

end ParticleTimeline
