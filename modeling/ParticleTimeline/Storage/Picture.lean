import ParticleTimeline.Particle.Png
import ParticleTimeline.Storage.Basic
import ParticleTimeline.Storage.Path
import ParticleTimeline.Text.Quoted
/-!
# Pictures in files

The format of a picture is told by the extension of its file, whatever the
case of the letters. PNG is read; the other formats are known by name only.
-/

namespace ParticleTimeline

/-- Why a picture cannot be taken from a file. -/
inductive PictureError where
  | storage (e : StorageError)
  /-- There is no extension to tell the format by. -/
  | unknownFormat
  /-- The extension tells nothing. -/
  | unknownExtension (extension : String)
  | unreadFormat (name : String)
  | png (e : PngError)
deriving DecidableEq, Repr

namespace PictureError

def message : PictureError → String
  | storage e => e.message
  | unknownFormat => "The image format could not be determined"
  | unknownExtension extension =>
    "The file extension `." ++ quoted extension ++ "` was not recognized as an image format"
  | unreadFormat name => "The image format " ++ name ++ " is not supported"
  | png e => if e.isFormatError then "Format error decoding Png: " ++ e.message else e.message

/-- The message, and what is behind it. -/
def causes (e : PictureError) : List String :=
  match e with
  | png inner => if inner.isFormatError then [e.message, inner.message] else [e.message]
  | _ => [e.message]

end PictureError

namespace Picture

/-- The formats by their extensions. -/
def formats : List (String × List String) := [
  ("Png", ["png", "apng"]), ("Jpeg", ["jpg", "jpeg", "jfif"]), ("Gif", ["gif"]),
  ("WebP", ["webp"]), ("Tiff", ["tif", "tiff"]), ("Tga", ["tga"]), ("Dds", ["dds"]),
  ("Bmp", ["bmp"]), ("Ico", ["ico"]), ("Hdr", ["hdr"]), ("OpenExr", ["exr"]),
  ("Pnm", ["pbm", "pam", "ppm", "pgm", "pnm"]), ("Farbfeld", ["ff"]), ("Avif", ["avif"]),
  ("Qoi", ["qoi"])]

/-- The formats that are looked for inside a file. -/
def readFormats : List String := ["Png", "Jpeg", "Gif", "WebP"]

/-- The format of a file. -/
def formatOf (path : String) : Except PictureError String :=
  match Path.extension? path with
  | none | some "" => .error .unknownFormat
  | some extension =>
    match formats.find? fun f => f.2.contains (extension.map Char.toLower) with
    | none => .error (.unknownExtension extension)
    | some (name, _) => if name ∈ readFormats then .ok name else .error (.unreadFormat name)

/-- The name under which a picture can be faded to: that of its file without
the extension. -/
def nameOf (path : String) : String := (Path.stem? path).getD "image"

variable {m : Type → Type} [Monad m]

/-- The picture in a file. Whether there is one is seen before its format,
and its format before that it is a directory. -/
def load (s : Storage m) (path : String) : m (Except PictureError Picture) := do
  match ← s.read path, formatOf path with
  | .error .isDirectory, .error e => return .error e
  | .error e, _ => return .error (.storage e)
  | .ok _, .error e => return .error e
  | .ok bytes, .ok "Png" => return (Png.decode bytes.toList).mapError .png
  | .ok _, .ok format => return .error (.unreadFormat format)

end Picture

end ParticleTimeline
