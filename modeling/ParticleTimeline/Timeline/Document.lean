import ParticleTimeline.Timeline.Config
/-!
# Timeline documents

A document is a timeline with the version of its schema, written as one JSON
object. Reading goes in two stages: `schemaVersion` is decoded where it
stands in the text, all other members are kept aside and decoded, in the
order of the text, when the object is read to its end. Whatever is wrong
with the version is therefore reported first. A document that reads is
validated last.
-/

namespace ParticleTimeline

/-- The version that is written. Documents without one predate it. -/
def schemaVersion : UInt32 := 1

/-- A timeline as it is exchanged. -/
structure TimelineDocument where
  version : UInt32 := schemaVersion
  config : TimelineConfig

namespace TimelineDocument

open Json (Complaint Failure Mismatch Reader)
open Json.Reader (failHere failNext skipBlanks)

/-- What the object of a document has shown so far: its version, if it has
come, and the other members, latest first. -/
structure Scan where
  version : Option UInt32 := none
  others : List (String × Json) := []

/-- The value does not fit. -/
def unfit (m : Mismatch) : Complaint := .unwanted m.message

/-- The version, where it stands. Of a value that is an array or an object,
the first character is enough. -/
def scanVersion : Reader UInt32 := fun cs =>
  match skipBlanks cs with
  | '[' :: rest => failHere (unfit (.wrongKind (.array []) "u32")) ('[' :: rest)
  | '\x7b' :: rest => failHere (unfit (.wrongKind (.object []) "u32")) ('\x7b' :: rest)
  | cs => do
    let (v, rest) ← Reader.value true (Reader.maxDepth - 1) cs
    match Json.Decoder.word v with
    | .ok n => return (n, rest)
    | .error m => failHere (unfit m) rest

/-- Takes one member of the object. -/
def scanMember (s : Scan) (name : String) : Reader Scan := fun cs =>
  if name = "schemaVersion" then
    if s.version.isSome then failHere (unfit (.repeated name)) (':' :: cs)
    else do
      let (n, rest) ← scanVersion cs
      return ({ s with version := some n }, rest)
  else do
    let (v, rest) ← Reader.value true (Reader.maxDepth - 1) cs
    return ({ s with others := (name, v) :: s.others }, rest)

/-- The timeline among the members of a document. -/
def decodeMembers (entries : List (String × Json)) : Except Mismatch TimelineConfig :=
  Json.Decoder.members TimelineConfig.fields TimelineConfig.setField [] {} entries

/-- A document, before it is validated. -/
def decode (cs : List Char) : Except Failure TimelineDocument := do
  match skipBlanks cs with
  | '\x7b' :: cs =>
    let (s, rest) ← Reader.members true scanMember {} cs
    match decodeMembers s.others.reverse with
    | .ok config =>
      Reader.endOfText rest
      return { version := s.version.getD schemaVersion, config }
    | .error m => failHere (unfit m) rest
  | '[' :: rest =>
    failHere (unfit (.wrongKind (.array []) "struct TimelineDocument")) ('[' :: rest)
  | cs =>
    let (v, rest) ← Reader.value true Reader.maxDepth cs
    failHere (unfit (.wrongKind v "struct TimelineDocument")) rest

/-- The document of a text. -/
def parse (text : String) : Except ConfigError TimelineDocument := do
  match decode text.toList with
  | .error f => throw (.malformedDocument (f.message text))
  | .ok d =>
    d.config.validate
    return d

def toJson (d : TimelineDocument) : Json :=
  .object (("schemaVersion", .word d.version) :: d.config.members)

/-- The text of a document. -/
def render (d : TimelineDocument) : String := d.toJson.pretty

end TimelineDocument

end ParticleTimeline
