import ParticleTimeline.Particle.Picture
import ParticleTimeline.Text.Quoted
/-!
# Pictures in PNG files

Reads the plainest kind of PNG: four channels of eight bits, rows without a
filter, in blocks that are stored and not compressed. The picture is whole
when the first chunks of data are followed by the head of a chunk of another
kind; nothing behind that is looked at.
-/

namespace ParticleTimeline

/-- The four letters that say what a chunk holds. -/
abbrev ChunkKind := List UInt8

namespace ChunkKind

def ofName (name : String) : ChunkKind := name.toList.map fun c => UInt8.ofNat c.toNat

def header : ChunkKind := ofName "IHDR"
def data : ChunkKind := ofName "IDAT"
def final : ChunkKind := ofName "IEND"

/-- Whether a letter of the kind is a small one. -/
def isSmall (k : ChunkKind) (place : Nat) : Bool := (k.getD place 0).toNat / 32 % 2 = 1

/-- A chunk that a picture cannot do without. -/
def isCritical (k : ChunkKind) : Bool := !k.isSmall 0

/-- The kind and what its letters say. -/
def describe (k : ChunkKind) : String :=
  let name := String.join (k.map fun b => Quoted.character (Char.ofNat b.toNat))
  "ChunkType \x7b type: " ++ name ++ ", critical: " ++ toString k.isCritical
    ++ ", private: " ++ toString (k.isSmall 1) ++ ", reserved: " ++ toString (k.isSmall 2)
    ++ ", safecopy: " ++ toString (k.isSmall 3) ++ " \x7d"

end ChunkKind

/-- Why a file holds no picture. -/
inductive PngError where
  /-- It does not begin like a PNG. -/
  | wrongSignature
  /-- It ends, or stops making sense, before the picture is whole. -/
  | cutOff
  /-- Another chunk stands where the header should. -/
  | beforeHeader (kind : ChunkKind)
  /-- The checksum of a chunk, and the one its content has. -/
  | wrongChecksum (kind : ChunkKind) (stated found : UInt32)
  /-- The picture has no width or no height. -/
  | emptyPicture
  /-- The picture would take more memory than one is given. -/
  | tooLarge
  /-- There are no chunks of data. -/
  | noData
  /-- The data ends before the last row. -/
  | littleData
deriving DecidableEq, Repr

namespace PngError

/-- A word to the base of sixteen. -/
def hex (n : UInt32) : String := "0x" ++ String.ofList (Nat.toDigits 16 n.toNat)

def message : PngError → String
  | wrongSignature => "Invalid PNG signature."
  | cutOff => "unexpected end of file"
  | beforeHeader kind => kind.describe ++ " chunk appeared before IHDR chunk"
  | wrongChecksum kind stated found =>
    "CRC error: expected " ++ hex stated ++ " have " ++ hex found ++ " while decoding "
      ++ kind.describe ++ " chunk."
  | emptyPicture => "Invalid image dimensions"
  | tooLarge => "Memory limit exceeded"
  | noData => "IDAT or fDAT chunk is missing."
  | littleData => "IDAT or fDAT chunk does not have enough data for image."

/-- Whether the file is a PNG with a fault in it. The other errors could
come with any format. -/
def isFormatError : PngError → Bool
  | cutOff | tooLarge => false
  | _ => true

end PngError

namespace Png

def signature : List UInt8 := [137, 80, 78, 71, 13, 10, 26, 10]

/-- A number of some bytes, the highest first. -/
def bigEndian (bytes : List UInt8) : Nat := bytes.foldl (fun n b => 256 * n + b.toNat) 0

/-- A number of two bytes, the lowest first. -/
def littleEndian (low high : UInt8) : Nat := low.toNat + 256 * high.toNat

/-- A chunk of a file. -/
structure Chunk where
  kind : ChunkKind
  content : List UInt8
  checksum : UInt32

/-- What a file is made of. -/
inductive Piece where
  | whole (c : Chunk)
  /-- The head of a chunk that the file ends in. -/
  | begun (kind : ChunkKind)

/-- What is dropped from the end of a list that is longer by an element. -/
theorem length_drop_lt {α : Type} {whole part : List α} (n : Nat)
    (h : part.length < whole.length) : (part.drop n).length < whole.length := by
  rw [List.length_drop]
  omega

/-- The pieces of a file. -/
def pieces (bytes : List UInt8) : List Piece :=
  match bytes with
  | a :: b :: c :: d :: k :: l :: m :: n :: rest =>
    let size := bigEndian [a, b, c, d]
    if rest.length < size + 4 then [.begun [k, l, m, n]]
    else
      let checksum := UInt32.ofNat (bigEndian ((rest.drop size).take 4))
      .whole { kind := [k, l, m, n], content := rest.take size, checksum }
        :: pieces (rest.drop (size + 4))
  | _ => []
termination_by bytes.length
decreasing_by exact length_drop_lt _ (by simp only [List.length_cons]; omega)

/-! ## Checksums -/

/-- One bit of the division that a checksum is the remainder of. -/
def checksumBit (c : UInt32) : UInt32 :=
  if c % 2 = 1 then c >>> 1 ^^^ 0xEDB88320 else c >>> 1

def checksumByte (c : UInt32) (b : UInt8) : UInt32 := Nat.repeat checksumBit 8 (c ^^^ b.toUInt32)

/-- The checksum of some bytes. -/
def checksumOf (bytes : List UInt8) : UInt32 := ~~~ (bytes.foldl checksumByte 0xFFFFFFFF)

/-- A chunk that is needed has to have the right checksum. -/
def Chunk.verify (c : Chunk) : Except PngError Unit :=
  let found := checksumOf (c.kind ++ c.content)
  if !c.kind.isCritical ∨ c.checksum = found then .ok ()
  else .error (.wrongChecksum c.kind c.checksum found)

/-! ## Pictures -/

/-- The content of stored blocks up to the last one. -/
def stored (bytes : List UInt8) : Option (List UInt8) :=
  match bytes with
  | head :: a :: b :: _ :: _ :: rest =>
    let size := littleEndian a b
    if head > 1 ∨ rest.length < size then none
    else if head = 1 then some (rest.take size)
    else (stored (rest.drop size)).map (rest.take size ++ ·)
  | _ => none
termination_by bytes.length
decreasing_by exact length_drop_lt _ (by simp only [List.length_cons]; omega)

/-- The bytes of rows that each begin with the number of no filter. -/
def unfiltered (rowSize : Nat) : Nat → List UInt8 → Except PngError (List UInt8)
  | 0, _ => .ok []
  | rows + 1, bytes =>
    if bytes.length < rowSize + 1 then .error .littleData
    else
      match bytes with
      | 0 :: rest => (unfiltered rowSize rows (rest.drop rowSize)).map (rest.take rowSize ++ ·)
      | _ => .error .cutOff

/-- The width and the height of a picture, from the content of its header. -/
def sizeOf (header : List UInt8) : Except PngError (Nat × Nat) :=
  let width := bigEndian (header.take 4)
  let height := bigEndian ((header.drop 4).take 4)
  if header.length < 13 then .error .cutOff
  else if width = 0 ∨ height = 0 then .error .emptyPicture
  else if (header.drop 8).take 2 ≠ [8, 6] then .error .cutOff
  else .ok (width, height)

/-- The content of the chunks of data from the first one on, which have to be
followed by the head of another chunk. -/
def dataRun : List Piece → Except PngError (List UInt8)
  | [] => .error .cutOff
  | .begun kind :: _ => if kind = .data then .error .cutOff else .ok []
  | .whole c :: rest =>
    if c.kind = .data then do
      c.verify
      return c.content ++ (← dataRun rest)
    else .ok []

/-- The pieces behind the header, from the first chunk of data on. -/
def fromData : List Piece → Except PngError (List Piece)
  | [] => .error .cutOff
  | .begun kind :: rest => if kind = .data then .ok (.begun kind :: rest) else .error .cutOff
  | .whole c :: rest =>
    if c.kind = .data then .ok (.whole c :: rest)
    else do
      c.verify
      if c.kind = .final then .error .noData else fromData rest

/-- The most bytes that a picture may take. -/
def memoryLimit : Nat := 536870912

/-- The picture in the pieces of a file. -/
def assemble : List Piece → Except PngError Picture
  | [] => .error .cutOff
  | .begun kind :: _ => .error (if kind = .header then .cutOff else .beforeHeader kind)
  | .whole c :: rest =>
    if c.kind ≠ .header then .error (.beforeHeader c.kind)
    else do
      let (width, height) ← sizeOf c.content
      c.verify
      let data ← fromData rest
      if memoryLimit < 4 * (width * height) then throw .tooLarge
      match stored ((← dataRun data).drop 2) with
      | none => throw .cutOff
      | some rows =>
        return Picture.tiled (UInt32.ofNat width) (UInt32.ofNat height)
          (Picture.pixelsOfBytes (← unfiltered (4 * width) height rows)).toArray

/-- What stands behind the signature. It is looked at in two halves. -/
def afterSignature (bytes : List UInt8) : Except PngError (List UInt8) :=
  if bytes.length < 4 then .error .cutOff
  else if bytes.take 4 ≠ signature.take 4 then .error .wrongSignature
  else if bytes.length < 8 then .error .cutOff
  else if bytes.take 8 ≠ signature then .error .wrongSignature
  else .ok (bytes.drop 8)

/-- The picture in a file. -/
def decode (bytes : List UInt8) : Except PngError Picture := do
  assemble (pieces (← afterSignature bytes))

end Png

end ParticleTimeline
