import ParticleTimeline.Glsl.Source
import ParticleTimeline.Table
/-!
# Bindings and their tables

An allocator hands out the identifiers of one registration: a name gets the
registration's number behind it, so that two registrations may use the same
name, and a name may be asked for once. The allocator without a number
keeps names as they are. Flushing an allocator declares its bindings in a
source and records them in a table, where every identifier stands once.
-/

namespace ParticleTimeline

/-- Something that can be bound to a name in a source. -/
class Bindable (α : Type) where
  /-- How its name is declared. -/
  qualifier : Qualifier

instance : Bindable Uniform where
  qualifier := .uniform

instance : Bindable Attribute where
  qualifier := .attr

/-- A binding under the name it was asked for. -/
structure Binding (α : Type) where
  name : String
  type : GlslType
  value : α

/-- What a table says of an identifier. -/
structure Entry (α : Type) where
  type : GlslType
  value : α

/-- The bindings of a draw command by identifier. -/
abbrev BindingTable (α : Type) := Table (Entry α)

/-- The identifier of a name under a number. -/
def identifier (id : Option Nat) (name : String) : String :=
  match id with
  | some id => name ++ "_" ++ toString id
  | none => name

/-- The bindings of one registration, in the order they were asked for. -/
structure Allocator (α : Type) where
  id : Option Nat
  bindings : List (Binding α) := []

namespace Allocator

variable {α : Type}

/-- The allocator of the bindings that belong to no registration. -/
def shared : Allocator α where
  id := none

def ofId (id : Nat) : Allocator α where
  id := some id

/-- Binds a name, and gives its identifier. -/
def add (a : Allocator α) (name : String) (type : GlslType) (value : α) :
    Except Fault (Allocator α × String) :=
  if a.bindings.any (·.name = name) then .error (.boundTwice name a.id)
  else .ok ({ a with bindings := a.bindings ++ [{ name, type, value }] }, identifier a.id name)

/-- The identifiers, in order. -/
def identifiers (a : Allocator α) : List String := a.bindings.map fun b => identifier a.id b.name

/-- Declares the bindings in a source. -/
def declareIn [Bindable α] (a : Allocator α) (s : ShaderSource) : ShaderSource :=
  a.bindings.foldl
    (fun s b => s.declare (Bindable.qualifier α) b.type (identifier a.id b.name)) s

/-- Records bindings in a table, up to and with one whose identifier is
taken. -/
def record (id : Option Nat) : List (Binding α) → BindingTable α → BindingTable α × Option Fault
  | [], t => (t, none)
  | b :: rest, t =>
    let name := identifier id b.name
    let new := Table.insert name { type := b.type, value := b.value } t
    if (Table.get? t name).isSome then (new, some (.nameCollision name)) else record id rest new

/-- Declares the bindings in a source and records them in a table. -/
def flush [Bindable α] (a : Allocator α) (s : ShaderSource) (t : BindingTable α) :
    ShaderSource × BindingTable α × Option Fault :=
  (a.declareIn s, record a.id a.bindings t)

end Allocator

end ParticleTimeline
