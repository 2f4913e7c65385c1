import ParticleTimeline.Fault
import ParticleTimeline.Json.Decoder
/-!
# Fields of a form

A field describes one entry of an effect's configuration: its name, its
label, its kind with a default and the bounds or options, and how a JSON
value is read into it. A value of the wrong shape, or one that names no
option, reads as nothing; numbers are held within the bounds.
-/

namespace ParticleTimeline

/-- What a field holds. -/
inductive FieldKind where
  | float (default least most : Float32)
  | bool (default : Bool)
  | color (default : Vec3 Float32)
  | point (default least most : Vec2 Float32)
  | choice (default : String) (options : List String)
deriving DecidableEq

/-- A field of a form. -/
structure Field where
  name : String
  label : String
  kind : FieldKind
deriving DecidableEq

/-- The value of a field. -/
inductive FieldValue where
  | float (x : Float32)
  | bool (b : Bool)
  | color (c : Vec3 Float32)
  | point (p : Vec2 Float32)
  | choice (option : String)
deriving DecidableEq

/-- Holds a number between bounds; it is a fault if they are the wrong way
round. What is no number stays none. -/
def clamp (x least most : Float32) : Except Fault Float32 :=
  if least ≤ most then
    let x := if x < least then least else x
    .ok (if x > most then most else x)
  else .error .invertedBounds

namespace FieldValue

/-- A single in a free-form value: its double, or null if it has none. -/
def numberJson (x : Float32) : Json := if x.isFinite then .double (Binary.widen x) else .null

def toJson : FieldValue → Json
  | float x => numberJson x
  | bool b => .bool b
  | color c => .array (c.toList.map numberJson)
  | point p => .array (p.toList.map numberJson)
  | choice option => .text option

end FieldValue

namespace Field

def default (f : Field) : FieldValue :=
  match f.kind with
  | .float d _ _ => .float d
  | .bool d => .bool d
  | .color d => .color d
  | .point d _ _ => .point d
  | .choice d _ => .choice d

/-- The value of a decoder that fits, if it does. -/
def fitting {α : Type} (decode : Json.Decoder α) (v : Json) : Option α := (decode v).toOption

/-- Reads a JSON value into the field. -/
def parse (f : Field) (v : Json) : Except Fault (Option FieldValue) :=
  match f.kind with
  | .float _ least most =>
    match fitting Json.Decoder.double v with
    | none => return none
    | some x => return some (.float (← clamp (Binary.narrow x) least most))
  | .bool _ => return (fitting Json.Decoder.bool v).map .bool
  | .color _ =>
    match fitting (Json.Decoder.triple Json.Decoder.single) v with
    | none => return none
    | some c => return some (.color ⟨← clamp c.x 0 1, ← clamp c.y 0 1, ← clamp c.z 0 1⟩)
  | .point _ least most =>
    match fitting (Json.Decoder.pair Json.Decoder.single) v with
    | none => return none
    | some p =>
      return some (.point ⟨← clamp p.x least.x most.x, ← clamp p.y least.y most.y⟩)
  | .choice _ options =>
    match fitting Json.Decoder.text v with
    | none => return none
    | some s => return if s ∈ options then some (.choice s) else none

/-! ## Random values -/

/-- How many numbers a draw chooses from. -/
def drawSteps : Nat := 8388608

/-- A number from zero up to, not including, one. -/
def unitDraw {γ : Type} [RandomGen γ] (g : γ) : Float32 × γ :=
  let (n, g) := randNat g 0 (drawSteps - 1)
  (Float32.ofNat n / Float32.ofNat drawSteps, g)

/-- A number between bounds, both included; it is a fault if there is none,
or if their distance is beyond all numbers. -/
def rangeDraw {γ : Type} [RandomGen γ] (least most : Float32) (g : γ) :
    Except Fault (Float32 × γ) :=
  let (u, g) := unitDraw g
  if !decide (least ≤ most) || !(most - least).isFinite then .error .emptyRange
  else
    let x := u * (most - least) + least
    .ok (if x > most then most else x, g)

/-- A random value of the field, within its bounds and options. -/
def random {γ : Type} [RandomGen γ] (f : Field) (g : γ) : Except Fault (FieldValue × γ) :=
  match f.kind with
  | .float _ least most => do
    let (x, g) ← rangeDraw least most g
    return (.float x, g)
  | .bool _ =>
    let (b, g) := randBool g
    return (.bool b, g)
  | .color _ =>
    let (x, g) := unitDraw g
    let (y, g) := unitDraw g
    let (z, g) := unitDraw g
    return (.color ⟨x, y, z⟩, g)
  | .point _ least most => do
    let (x, g) ← rangeDraw least.x most.x g
    let (y, g) ← rangeDraw least.y most.y g
    return (.point ⟨x, y⟩, g)
  | .choice d options =>
    let (i, g) := randNat g 0 (options.length - 1)
    return (.choice (options.getD i d), g)

/-! ## As JSON -/

def kindName : FieldKind → String
  | .float .. => "Float"
  | .bool _ => "Bool"
  | .color _ => "Color"
  | .point .. => "Point2D"
  | .choice .. => "Choice"

def vec2Json (v : Vec2 Float32) : Json := .array (v.toList.map Json.single)
def vec3Json (v : Vec3 Float32) : Json := .array (v.toList.map Json.single)

def kindMembers : FieldKind → List (String × Json)
  | .float d least most => [("default", .single d), ("min", .single least), ("max", .single most)]
  | .bool d => [("default", .bool d)]
  | .color d => [("default", vec3Json d)]
  | .point d least most =>
    [("default", vec2Json d), ("min", vec2Json least), ("max", vec2Json most)]
  | .choice d options => [("default", .text d), ("options", .array (options.map Json.text))]

def toJson (f : Field) : Json :=
  .object ([("type", .text (kindName f.kind)), ("name", .text f.name), ("label", .text f.label)]
    ++ kindMembers f.kind)

/-- The kinds by name, none of their members read. -/
def unread? : String → Option FieldKind
  | "Float" => some (.float 0 0 0)
  | "Bool" => some (.bool false)
  | "Color" => some (.color ⟨0, 0, 0⟩)
  | "Point2D" => some (.point ⟨0, 0⟩ ⟨0, 0⟩ ⟨0, 0⟩)
  | "Choice" => some (.choice "" [])
  | _ => none

def setMember (f : Field) (name : String) (v : Json) : Except Json.Mismatch Field := do
  match name, f.kind with
  | "name", _ => return { f with name := ← Json.Decoder.text v }
  | "label", _ => return { f with label := ← Json.Decoder.text v }
  | "default", .float _ least most =>
    return { f with kind := .float (← Json.Decoder.single v) least most }
  | "min", .float d _ most => return { f with kind := .float d (← Json.Decoder.single v) most }
  | "max", .float d least _ => return { f with kind := .float d least (← Json.Decoder.single v) }
  | "default", .bool _ => return { f with kind := .bool (← Json.Decoder.bool v) }
  | "default", .color _ =>
    return { f with kind := .color (← Json.Decoder.triple Json.Decoder.single v) }
  | "default", .point _ least most =>
    return { f with kind := .point (← Json.Decoder.pair Json.Decoder.single v) least most }
  | "min", .point d _ most =>
    return { f with kind := .point d (← Json.Decoder.pair Json.Decoder.single v) most }
  | "max", .point d least _ =>
    return { f with kind := .point d least (← Json.Decoder.pair Json.Decoder.single v) }
  | "default", .choice _ options =>
    return { f with kind := .choice (← Json.Decoder.text v) options }
  | "options", .choice d _ =>
    return { f with kind := .choice d (← Json.Decoder.list Json.Decoder.text v) }
  | _, _ => return f

/-- A field whose kind is known, from its other members. -/
def decodeAs (kind : FieldKind) : Json.Decoder Field :=
  let names := "name" :: "label" :: (kindMembers kind).map Prod.fst
  Json.Decoder.record (kindName kind) names names.length setMember ⟨"", "", kind⟩

/-- A field, from an object with a `type` or from an array that starts with
it. -/
def decode : Json.Decoder Field := fun v => do
  let (type, rest) ← match v with
    | .object entries =>
      match entries.filter (·.1 = "type") with
      | [] => throw (.missing "type")
      | [(_, type)] => pure (type, .object (entries.filter (·.1 ≠ "type")))
      | _ => throw (.repeated "type")
    | .array (type :: rest) => pure (type, .array rest)
    | .array [] => throw (.missing "type")
    | v => throw (.wrongKind v "a field")
  let name ← Json.Decoder.text type
  match unread? name with
  | some kind => decodeAs kind rest
  | none => throw (.refused ("unknown kind of field: " ++ name))

end Field

end ParticleTimeline
