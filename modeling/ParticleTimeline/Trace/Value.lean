import ParticleTimeline.Effect.Basic
import ParticleTimeline.Number.Reading
/-!
# Traces of values

A trace shows a value as JSON in which nothing is lost: a float is a text of
its shortest digits, so that infinities and what is no number show too, and
a value with several kinds is an object whose one member names the kind.
Where a trace is read, a float may be a bare number as well.
-/

namespace ParticleTimeline

namespace Trace

/-! ## Numbers -/

def double (x : Float) : Json := .text (FloatText.plain x)
def single (x : Float32) : Json := .text (FloatText.plain32 x)
def singles (xs : List Float32) : Json := .array (xs.map single)
def texts (ss : List String) : Json := .array (ss.map Json.text)

def readDouble : Json → Float
  | .number n => n.toDouble
  | .text s => FloatText.read s
  | _ => 0.0 / 0.0

def readSingle (v : Json) : Float32 := Binary.narrow (readDouble v)

def readSingles : Json → List Float32
  | .array items => items.map readSingle
  | _ => []

/-- A whole number; anything else counts as zero. -/
def readInt : Json → Int
  | .number (.natural n) => n.toNat
  | .number (.negative n) => n.toInt
  | .number n => n.toDouble.toInt64.toInt
  | _ => 0

def readBool : Json → Bool
  | .bool b => b
  | _ => false

def readText : Json → String
  | .text s => s
  | _ => ""

/-- The kind and the content of a value. -/
def readKind : Json → String × Json
  | .object ((kind, content) :: _) => (kind, content)
  | _ => ("", .null)

/-! ## Bytes -/

def hexDigit (n : UInt8) : Char := Char.ofNat (if n < 10 then 48 + n.toNat else 87 + n.toNat)

def readHexDigit (c : Char) : UInt8 :=
  UInt8.ofNat (if c.isDigit then c.toNat - 48 else c.toLower.toNat - 87)

/-- Two digits for every byte. -/
def hex (bytes : List UInt8) : String :=
  String.ofList (bytes.flatMap fun b => [hexDigit (b / 16), hexDigit (b % 16)])

def readHex : List Char → List UInt8
  | a :: b :: rest => (16 * readHexDigit a + readHexDigit b) :: readHex rest
  | _ => []

/-! ## Values of fields and uniforms -/

def fieldValue : FieldValue → Json
  | .float x => .object [("Float", single x)]
  | .bool b => .object [("Bool", .bool b)]
  | .color c => .object [("Color", singles c.toList)]
  | .point p => .object [("Point2D", singles p.toList)]
  | .choice s => .object [("Choice", .text s)]

def readFieldValue (v : Json) : FieldValue :=
  let (kind, content) := readKind v
  match kind, readSingles content with
  | "Float", _ => .float (readSingle content)
  | "Bool", _ => .bool (readBool content)
  | "Color", [r, g, b] => .color ⟨r, g, b⟩
  | "Point2D", [x, y] => .point ⟨x, y⟩
  | _, _ => .choice (readText content)

def uniformValue : UniformValue → Json
  | .float x => .object [("float", single x)]
  | .vec2 v => .object [("vec2", singles v.toList)]
  | .vec3 v => .object [("vec3", singles v.toList)]
  | .vec4 v => .object [("vec4", singles v.toList)]
  | .int n => .object [("int", UniformValue.integerJson n.toInt)]
  | .bool b => .object [("bool", .bool b)]

def readUniformValue (v : Json) : UniformValue :=
  let (kind, content) := readKind v
  match kind, readSingles content with
  | "float", _ => .float (readSingle content)
  | "vec2", [x, y] => .vec2 ⟨x, y⟩
  | "vec3", [x, y, z] => .vec3 ⟨x, y, z⟩
  | "vec4", [x, y, z, w] => .vec4 ⟨x, y, z, w⟩
  | "int", _ => .int (Int32.ofInt (readInt content))
  | _, _ => .bool (readBool content)

/-- The uniforms of a table with their values in a frame. -/
def uniforms (frame : FrameContext) (t : BindingTable Uniform) : Json :=
  .object (t.mapValues fun e => .object [("type", .text e.type.name),
    ("components", .nat e.type.components), ("constant", .bool e.value.isConstant),
    ("value", uniformValue (e.value.resolve frame))])

def attributeData (a : Attribute) : Json := singles a.data.toList

def attributes (t : BindingTable Attribute) : Json :=
  .object (t.mapValues fun e =>
    .object [("type", .text e.type.name), ("data", attributeData e.value)])

/-! ## Pictures and particles -/

def vertex (v : ParticleVertex Float32) : Json :=
  .array [singles v.texcoord.toList, singles v.rgb.toList, singles v.hsv.toList]

/-- A picture, from its size and pixels that are repeated until it is full. -/
def readPicture (v : Json) : Picture :=
  let size (name : String) : UInt32 := UInt32.ofInt (readInt ((v.member? name).getD .null))
  let pixels := readHex (readText ((v.member? "px").getD .null)).toList
  Picture.tiled (size "w") (size "h") (Picture.pixelsOfBytes pixels).toArray

end Trace

end ParticleTimeline
