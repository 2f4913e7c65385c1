import ParticleTimeline.Effect.Motion
/-!
# Effects that change colours

A tint towards one colour, and a fade to the colours of a second picture that
is fetched by its name while the effect is registered.
-/

namespace ParticleTimeline

/-! ## One colour -/

/-- The tint and how strong it gets. -/
structure ColorizeConfig where
  color : Vec3 Float32 := ⟨1, 0, 0⟩
  amount : Float32 := 0.5

namespace ColorizeConfig

def setField (c : ColorizeConfig) (name : String) (v : Json) :
    Except Json.Mismatch ColorizeConfig := do
  match name with
  | "color" => return { c with color := ← Json.Decoder.triple Json.Decoder.single v }
  | "amount" => return { c with amount := ← Json.Decoder.single v }
  | _ => return c

def decode : Json.Decoder ColorizeConfig :=
  Json.Decoder.record "ColorizeConfig" ["color", "amount"] 0 setField {}

end ColorizeConfig

/-- Tints particles towards a colour, in the fragment stage. -/
def Effect.colorize : Effect where
  id := "Colorize"
  displayName := "Colorize"
  fields :=
    let d : ColorizeConfig := {}
    [⟨"color", "Color", .color d.color⟩, ⟨"amount", "Amount", .float d.amount 0 1⟩]
  register r :=
    let c := r.config ColorizeConfig.decode {}
    .ofActions [
      .bindUniform "color" .vec3 (.constant (.vec3 c.color)),
      .bindUniform "amount" .float (fixedFloat c.amount),
      .addMain .fragment
        ("color = mix(color, " ++ r.identifier "color" ++ ", " ++ r.identifier "amount"
          ++ " * sin(" ++ r.progress ++ " * 3.14159265359));")]

/-! ## A second picture -/

/-- The picture to fade to, by name. -/
structure ChangeImageConfig where
  image : String := ""

namespace ChangeImageConfig

def setField (c : ChangeImageConfig) (name : String) (v : Json) :
    Except Json.Mismatch ChangeImageConfig := do
  match name with
  | "image" => return { c with image := ← Json.Decoder.text v }
  | _ => return c

def decode : Json.Decoder ChangeImageConfig :=
  Json.Decoder.record "ChangeImageConfig" ["image"] 0 setField {}

end ChangeImageConfig

/-- What fetching a picture comes to. -/
structure Fetch where
  /-- How often the registration is suspended for it. -/
  waits : Nat := 0
  /-- The picture, or a complaint; nothing if neither ever comes. -/
  answer : Option (Except String Picture)

/-- Where pictures come from: the names that a form offers, and what fetching
a name comes to. A source may have the registration wait, once or often, it may
complain or come to nothing at all, and it may answer otherwise the next time. -/
structure PictureSource where
  names : List String
  fetch : Request → String → Fetch

/-- The pictures of a table, without waiting. -/
def PictureSource.memory (pictures : Table Picture) : PictureSource where
  names := Table.names pictures
  fetch _ name :=
    { answer :=
        match Table.get? pictures name with
        | some p => some (.ok p)
        | none => some (.error ("no image named '" ++ name ++ "'")) }

/-- What is done with a picture that was fetched: its colours on the grid at
hand become an attribute to fade to. -/
def fadeTo (r : Request) (p : Picture) : Except ConfigError (List Action) := do
  let grid ← ParticleGrid.ofPicture p r.grid.width r.grid.height r.timeline.scaling
  return [
    .bindAttribute "targetRgb" .vec3 ⟨grid.rgb⟩,
    .addMain .vertex
      ("color = mix(color, " ++ r.identifier "targetRgb" ++ ", smoothstep(0.0, 1.0, "
        ++ r.progress ++ "));")]

/-- Fades the colours of the particles to those of a second picture, once in
every repetition. No name is no picture, and is not even looked up. -/
def Effect.changeImageOf (source : PictureSource) : Effect where
  id := "ChangeImage"
  displayName := "Change image"
  fields := [⟨"image", "Image", .choice (source.names.headD "") source.names⟩]
  register r :=
    let name := (r.config ChangeImageConfig.decode {}).image
    if name = "" then .failing "ChangeImage" "no image selected"
    else
      let fetched := source.fetch r name
      let waits := List.replicate fetched.waits Move.wait
      match fetched.answer with
      | none => { moves := waits, ending := .never }
      | some (.error complaint) => { moves := waits, ending := .fails ⟨"ChangeImage", complaint⟩ }
      | some (.ok p) =>
        match fadeTo r p with
        | .error e => { moves := waits, ending := .fails ⟨"ChangeImage", e.message⟩ }
        | .ok actions => { moves := waits ++ actions.map .act }

/-- The fade over pictures in memory. -/
def Effect.changeImage (pictures : Table Picture) : Effect := .changeImageOf (.memory pictures)

/-! ## Nothing -/

/-- Contributes nothing, and keeps a place on a track. -/
def Effect.dummy : Effect where
  id := "Dummy"
  displayName := "Dummy"
  fields := []
  register _ := .ofActions []

end ParticleTimeline
