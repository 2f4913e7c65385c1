import ParticleTimeline.Glsl.Value
/-!
# Shader sources

The source of one stage grows in five sections that are put together only
at the end, so a declaration may come after the code that uses it. A mark
remembers how long the sections were, in bytes of UTF-8; rolling back to it
cuts each section to that length. A section that is shorter by now is left
alone, and a cut inside a character is a fault.
-/

namespace ParticleTimeline

/-- The stage a source is for. -/
inductive ShaderStage where
  | vertex
  | fragment
deriving DecidableEq, Repr

/-- What a declaration declares. -/
inductive Qualifier where
  | attr
  | uniform
  | varying
deriving DecidableEq, Repr

def Qualifier.name : Qualifier → String
  | attr => "attribute"
  | uniform => "uniform"
  | varying => "varying"

/-- The sections of a source, in the order they are put together. -/
inductive Section where
  | attributes
  | uniforms
  | varyings
  | globals
  | body
deriving DecidableEq, Repr

namespace Section

def all : List Section := [attributes, uniforms, varyings, globals, body]

end Section

/-- Where a declaration goes. -/
def Qualifier.place : Qualifier → Section
  | attr => .attributes
  | uniform => .uniforms
  | varying => .varyings

/-- One value for every section. -/
structure Sections (α : Type) where
  attributes : α
  uniforms : α
  varyings : α
  globals : α
  body : α
deriving DecidableEq

namespace Sections

variable {α β : Type}

def get (t : Sections α) : Section → α
  | .attributes => t.attributes
  | .uniforms => t.uniforms
  | .varyings => t.varyings
  | .globals => t.globals
  | .body => t.body

def set (t : Sections α) (k : Section) (a : α) : Sections α :=
  match k with
  | .attributes => { t with attributes := a }
  | .uniforms => { t with uniforms := a }
  | .varyings => { t with varyings := a }
  | .globals => { t with globals := a }
  | .body => { t with body := a }

def map (f : α → β) (t : Sections α) : Sections β where
  attributes := f t.attributes
  uniforms := f t.uniforms
  varyings := f t.varyings
  globals := f t.globals
  body := f t.body

@[simp] theorem get_set (t : Sections α) (k l : Section) (a : α) :
    (t.set k a).get l = if l = k then a else t.get l := by
  cases k <;> cases l <;> rfl

@[simp] theorem get_map (f : α → β) (t : Sections α) (k : Section) :
    (t.map f).get k = f (t.get k) := by
  cases k <;> rfl

end Sections

/-- The source of one stage. -/
structure ShaderSource where
  stage : ShaderStage
  sections : Sections String
deriving DecidableEq

/-- How long the sections were at some time. -/
abbrev Mark := Sections Nat

namespace ShaderSource

/-- A source without a line. -/
def empty (stage : ShaderStage) : ShaderSource where
  stage
  sections := ⟨"", "", "", "", ""⟩

/-- Puts text behind a section. -/
def append (s : ShaderSource) (k : Section) (text : String) : ShaderSource :=
  { s with sections := s.sections.set k (s.sections.get k ++ text) }

/-- The text with its last line ended. -/
def endLine (text : String) : String :=
  if text.toList.getLast? = some '\n' then text else text ++ "\n"

/-- The line that declares a name. -/
def declaration (q : Qualifier) (type : GlslType) (name : String) : String :=
  q.name ++ " " ++ type.name ++ " " ++ name ++ ";\n"

def declare (s : ShaderSource) (q : Qualifier) (type : GlslType) (name : String) : ShaderSource :=
  s.append q.place (declaration q type name)

/-- Adds declarations and helper functions before the main function. -/
def addGlobal (s : ShaderSource) (text : String) : ShaderSource := s.append .globals (endLine text)

/-- Adds statements to the main function. -/
def addMain (s : ShaderSource) (text : String) : ShaderSource := s.append .body (endLine text)

/-- What the main function holds so far. -/
def mainBody (s : ShaderSource) : String := s.sections.body

/-! ## Marks -/

def mark (s : ShaderSource) : Mark := s.sections.map String.utf8ByteSize

/-- The first `n` bytes of a text, all of it if it has fewer; nothing if the
cut is inside a character. -/
def takeBytes (n : Nat) : List Char → Option (List Char)
  | [] => some []
  | c :: rest =>
    if n = 0 then some []
    else if c.utf8Size ≤ n then (takeBytes (n - c.utf8Size) rest).map (c :: ·)
    else none

/-- Cuts the sections one after the other, up to one that cannot be cut. -/
def cut (m : Mark) : List Section → Sections String → Sections String × Option Fault
  | [], t => (t, none)
  | k :: rest, t =>
    match takeBytes (m.get k) (t.get k).toList with
    | some cs => cut m rest (t.set k (String.ofList cs))
    | none => (t, some .splitCharacter)

/-- Drops what came after a mark. -/
def rollback (s : ShaderSource) (m : Mark) : ShaderSource × Option Fault :=
  let (sections, fault) := cut m Section.all s.sections
  ({ s with sections }, fault)

/-! ## The whole text -/

/-- What a stage begins with. -/
def preamble : ShaderStage → String
  | .vertex => ""
  | .fragment => "precision highp float;\n"

/-- The complete source. -/
def compile (s : ShaderSource) : String :=
  preamble s.stage ++ s.sections.attributes ++ s.sections.uniforms ++ s.sections.varyings
    ++ s.sections.globals ++ "void main() \x7b\n" ++ s.sections.body ++ "\x7d\n"

end ShaderSource

end ParticleTimeline
