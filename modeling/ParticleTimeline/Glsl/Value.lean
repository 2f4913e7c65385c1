import ParticleTimeline.Clock
import ParticleTimeline.Json.Value
/-!
# Values in a shader

The types a program can declare, the values of uniforms, and the two ways a
uniform has its value: one for good, or one for every frame.
-/

namespace ParticleTimeline

/-- The type of a uniform or an attribute. -/
inductive GlslType where
  | float
  | vec2
  | vec3
  | vec4
  | int
  | bool
deriving DecidableEq, Repr

namespace GlslType

def all : List GlslType := [float, vec2, vec3, vec4, int, bool]

def name : GlslType → String
  | float => "float"
  | vec2 => "vec2"
  | vec3 => "vec3"
  | vec4 => "vec4"
  | int => "int"
  | bool => "bool"

/-- How many scalars one element has. -/
def components : GlslType → Nat
  | vec2 => 2
  | vec3 => 3
  | vec4 => 4
  | float | int | bool => 1

end GlslType

/-- The value of a uniform. -/
inductive UniformValue where
  | float (x : Float32)
  | vec2 (v : Vec2 Float32)
  | vec3 (v : Vec3 Float32)
  | vec4 (v : Vec4 Float32)
  | int (n : Int32)
  | bool (b : Bool)
deriving DecidableEq

namespace UniformValue

def type : UniformValue → GlslType
  | float _ => .float
  | vec2 _ => .vec2
  | vec3 _ => .vec3
  | vec4 _ => .vec4
  | int _ => .int
  | bool _ => .bool

/-- A whole number in JSON. -/
def integerJson (n : Int) : Json :=
  if n < 0 then .number (.negative (Int64.ofInt n)) else .nat n.toNat

/-- The bare value, without its type. -/
def toJson : UniformValue → Json
  | float x => .single x
  | vec2 v => .array (v.toList.map Json.single)
  | vec3 v => .array (v.toList.map Json.single)
  | vec4 v => .array (v.toList.map Json.single)
  | int n => integerJson n.toInt
  | bool b => .bool b

end UniformValue

/-- Where a uniform has its value from. -/
inductive Uniform where
  | constant (v : UniformValue)
  | perFrame (value : FrameContext → UniformValue)

namespace Uniform

/-- The value in a frame. -/
def resolve (frame : FrameContext) : Uniform → UniformValue
  | constant v => v
  | perFrame value => value frame

def isConstant : Uniform → Bool
  | constant _ => true
  | perFrame _ => false

end Uniform

/-- One scalar after the other for every particle. -/
structure Attribute where
  data : Array Float32
deriving DecidableEq

end ParticleTimeline
