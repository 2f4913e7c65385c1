import ParticleTimeline.Glsl.Source
/-!
# Both stages together

A draw has a vertex and a fragment source that grow side by side.
-/

namespace ParticleTimeline

/-- The sources of the two stages. -/
structure Stages where
  vertex : ShaderSource := .empty .vertex
  fragment : ShaderSource := .empty .fragment
deriving DecidableEq

/-- A mark in each source. -/
structure StageMarks where
  vertex : Mark
  fragment : Mark
deriving DecidableEq

namespace Stages

/-- Two sources without a line. -/
def empty : Stages := {}

def get (s : Stages) : ShaderStage → ShaderSource
  | .vertex => s.vertex
  | .fragment => s.fragment

/-- Changes the source of one stage. -/
def change (s : Stages) (stage : ShaderStage) (f : ShaderSource → ShaderSource) : Stages :=
  match stage with
  | .vertex => { s with vertex := f s.vertex }
  | .fragment => { s with fragment := f s.fragment }

/-- Changes both sources in the same way. -/
def both (s : Stages) (f : ShaderSource → ShaderSource) : Stages where
  vertex := f s.vertex
  fragment := f s.fragment

/-- Adds the same statements to both main functions. -/
def addMain (s : Stages) (text : String) : Stages := s.both (·.addMain text)

def marks (s : Stages) : StageMarks := ⟨s.vertex.mark, s.fragment.mark⟩

/-- Rolls both sources back, the vertex source first. -/
def rollback (s : Stages) (m : StageMarks) : Stages × Option Fault :=
  match s.vertex.rollback m.vertex with
  | (vertex, some fault) => ({ s with vertex }, some fault)
  | (vertex, none) =>
    let (fragment, fault) := s.fragment.rollback m.fragment
    (⟨vertex, fragment⟩, fault)

end Stages

end ParticleTimeline
