import ParticleTimeline.Json.Printer
import ParticleTimeline.Number.Scalar
import ParticleTimeline.Text.Quoted
/-!
# From JSON to typed values

A decoder takes a JSON value or says how it does not fit. A record may be
given as an object, whose members are decoded in the order of the text, or
as an array of its fields in their order; a member that the record does not
know is passed over, one that it knows may come once.
-/

namespace ParticleTimeline

namespace Json

/-- How a value does not fit. -/
inductive Mismatch where
  | wrongKind (got : Json) (wanted : String)
  | outOfRange (got : JsonNumber) (wanted : String)
  | wrongLength (length : Nat) (wanted : String)
  | missing (field : String)
  | repeated (field : String)
  /-- The kind is right and the value is refused. -/
  | refused (message : String)

namespace Mismatch

/-- A value as a message names it. -/
def describe : Json → String
  | .null => "null"
  | .bool b => "boolean \x60" ++ (if b then "true" else "false") ++ "\x60"
  | .number (.natural n) => "integer \x60" ++ toString n.toNat ++ "\x60"
  | .number (.negative n) => "integer \x60" ++ toString n.toInt ++ "\x60"
  | .number (.double x) => "floating point \x60" ++ FloatText.json x ++ "\x60"
  | .number (.single x) => "floating point \x60" ++ FloatText.json (Binary.widen x) ++ "\x60"
  | .text s => "string " ++ quoted s
  | .array _ => "sequence"
  | .object _ => "map"

def message : Mismatch → String
  | wrongKind got wanted => "invalid type: " ++ describe got ++ ", expected " ++ wanted
  | outOfRange got wanted =>
    "invalid value: " ++ describe (.number got) ++ ", expected " ++ wanted
  | wrongLength length wanted =>
    "invalid length " ++ toString length ++ ", expected " ++ wanted
  | missing field => "missing field \x60" ++ field ++ "\x60"
  | repeated field => "duplicate field \x60" ++ field ++ "\x60"
  | refused message => message

end Mismatch

/-- A way to take a JSON value. -/
abbrev Decoder (α : Type) := Json → Except Mismatch α

namespace Decoder

/-- A whole number of 32 bits without sign. -/
def word : Decoder UInt32
  | .number (.natural n) =>
    if n.toNat < UInt32.size then .ok n.toUInt32 else .error (.outOfRange (.natural n) "u32")
  | .number (.negative n) => .error (.outOfRange (.negative n) "u32")
  | v => .error (.wrongKind v "u32")

/-- Any number, as a single. -/
def single : Decoder Float32
  | .number n => .ok n.toSingle
  | v => .error (.wrongKind v "f32")

/-- Any number, as a double. -/
def double : Decoder Float
  | .number n => .ok n.toDouble
  | v => .error (.wrongKind v "f64")

def bool : Decoder Bool
  | .bool b => .ok b
  | v => .error (.wrongKind v "a boolean")

def text : Decoder String
  | .text s => .ok s
  | v => .error (.wrongKind v "a string")

/-- An array, each element by one decoder. -/
def list {α : Type} (element : Decoder α) : Decoder (List α)
  | .array items => items.mapM element
  | v => .error (.wrongKind v "a sequence")

/-- What an array that is too long should have been. -/
def elementsWanted (n : Nat) : String :=
  toString n ++ (if n = 1 then " element in sequence" else " elements in sequence")

/-- An array of exactly `n` elements. -/
def exactly {α : Type} (n : Nat) (element : Decoder α) : Decoder (List α)
  | .array items => do
    let taken ← (items.take n).mapM element
    if items.length < n then
      throw (.wrongLength items.length ("an array of length " ++ toString n))
    if n < items.length then throw (.wrongLength items.length (elementsWanted n))
    return taken
  | v => .error (.wrongKind v ("an array of length " ++ toString n))

/-- An array of two. -/
def pair {α : Type} (element : Decoder α) : Decoder (Vec2 α) := fun v => do
  match ← exactly 2 element v with
  | [x, y] => return ⟨x, y⟩
  | taken => throw (.wrongLength taken.length "an array of length 2")

/-- An array of three. -/
def triple {α : Type} (element : Decoder α) : Decoder (Vec3 α) := fun v => do
  match ← exactly 3 element v with
  | [x, y, z] => return ⟨x, y, z⟩
  | taken => throw (.wrongLength taken.length "an array of length 3")

/-! ## Records -/

/-- Decodes the members in order: `set` takes a known one into the record. -/
def members {α : Type} (fields : List String)
    (set : α → String → Json → Except Mismatch α) :
    (seen : List String) → α → List (String × Json) → Except Mismatch α
  | _, a, [] => .ok a
  | seen, a, (name, v) :: rest =>
    if name ∈ fields then
      if name ∈ seen then .error (.repeated name)
      else do members fields set (name :: seen) (← set a name v) rest
    else members fields set seen a rest

/-- A record called `name`. The first `required` fields must be there; when
it is an array, what is behind its end is not there. -/
def record {α : Type} (name : String) (fields : List String) (required : Nat)
    (set : α → String → Json → Except Mismatch α) (start : α) : Decoder α
  | .object entries => do
    let a ← members fields set [] start entries
    match (fields.take required).find? fun f => !entries.any (·.1 = f) with
    | some field => throw (.missing field)
    | none => return a
  | .array items => do
    let a ← members fields set [] start (fields.zip items)
    if items.length < required then
      throw (.wrongLength items.length
        ("struct " ++ name ++ " with " ++ toString fields.length
          ++ (if fields.length = 1 then " element" else " elements")))
    if fields.length < items.length then
      throw (.wrongLength items.length (elementsWanted fields.length))
    return a
  | v => .error (.wrongKind v ("struct " ++ name))

end Decoder

end Json

end ParticleTimeline
