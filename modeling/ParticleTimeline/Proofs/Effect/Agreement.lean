import ParticleTimeline.Proofs.Effect.Typed
import ParticleTimeline.Proofs.Particle.Grid
/-!
# The forms of the effects that come with the program

For each effect, the members of its configuration are those of its form, and
what the fields of the form admit is enough to register it. So the form and the
decoder agree (`TypedEffect.agrees_builtIn`). Only fading to a picture asks for
more than a configuration: pictures to choose from, and particles.
-/

namespace ParticleTimeline

namespace TypedEffect

def wave : TypedEffect where
  effect := .wave
  Config := WaveConfig
  default := {}
  decode := WaveConfig.decode
  set := WaveConfig.setField
  members c := [("amplitude", .float c.amplitude), ("wavelength", .float c.wavelength),
    ("direction", .float c.direction), ("speed", .float c.speed)]

def hueDisplace : TypedEffect where
  effect := .hueDisplace
  Config := HueDisplaceConfig
  default := {}
  decode := HueDisplaceConfig.decode
  set := HueDisplaceConfig.setField
  members c := [("distance", .float c.distance), ("scaleByValue", .bool c.scaleByValue),
    ("rotate", .float c.rotate)]

def converge : TypedEffect where
  effect := .converge
  Config := ConvergeConfig
  default := {}
  decode := ConvergeConfig.decode
  set := ConvergeConfig.setField
  members c := [("target", .choice c.target), ("strength", .float c.strength),
    ("radius", .float c.radius)]

def colorize : TypedEffect where
  effect := .colorize
  Config := ColorizeConfig
  default := {}
  decode := ColorizeConfig.decode
  set := ColorizeConfig.setField
  members c := [("color", .color c.color), ("amount", .float c.amount)]

/-- There must be pictures to fade to, with names and pixels, and the particles
are those of a timeline. -/
def changeImage (pictures : Table Picture) : TypedEffect where
  effect := .changeImage pictures
  Config := ChangeImageConfig
  default := {}
  decode := ChangeImageConfig.decode
  set := ChangeImageConfig.setField
  members c := [("image", .choice c.image)]
  ready r := pictures ≠ [] ∧ (∀ e ∈ pictures, e.1 ≠ "" ∧ e.2.width ≠ 0 ∧ e.2.height ≠ 0) ∧
    ∃ picture timeline, ParticleGrid.sample picture timeline = .ok r.grid

def builtIn (pictures : Table Picture) : List TypedEffect :=
  [wave, hueDisplace, converge, colorize, changeImage pictures]

theorem lawful_wave : wave.Lawful where
  distinct := by decide
  sound := by decide +kernel
  names _ := rfl
  record := ⟨"WaveConfig", rfl⟩
  set config f hf value hvalue := by
    simp only [wave, Effect.wave, List.mem_cons, List.not_mem_nil, or_false] at hf
    rcases hf with rfl | rfl | rfl | rfl
    · obtain ⟨x, rfl, hx⟩ := Field.admits_float (by decide +kernel) hvalue
      exact ⟨{ config with amplitude := x }, by simp only [wave, WaveConfig.setField, hx]; rfl, rfl⟩
    · obtain ⟨x, rfl, hx⟩ := Field.admits_float (by decide +kernel) hvalue
      exact ⟨{ config with wavelength := x },
        by simp only [wave, WaveConfig.setField, hx]; rfl, rfl⟩
    · obtain ⟨x, rfl, hx⟩ := Field.admits_float (by decide +kernel) hvalue
      exact ⟨{ config with direction := x }, by simp only [wave, WaveConfig.setField, hx]; rfl, rfl⟩
    · obtain ⟨x, rfl, hx⟩ := Field.admits_float (by decide +kernel) hvalue
      exact ⟨{ config with speed := x }, by simp only [wave, WaveConfig.setField, hx]; rfl, rfl⟩
  determined := by
    rintro ⟨a, b, c, d⟩ ⟨a', b', c', d'⟩ h
    cases h
    rfl
  succeeds r _ _ :=
    (Registry.proper_builtInOf (.memory []) .wave
      (by simp [Registry.builtInOf]) r).succeeds ⟨_, rfl⟩

theorem lawful_hueDisplace : hueDisplace.Lawful where
  distinct := by decide
  sound := by decide +kernel
  names _ := rfl
  record := ⟨"HueDisplaceConfig", rfl⟩
  set config f hf value hvalue := by
    simp only [hueDisplace, Effect.hueDisplace, List.mem_cons, List.not_mem_nil, or_false] at hf
    rcases hf with rfl | rfl | rfl
    · obtain ⟨x, rfl, hx⟩ := Field.admits_float (by decide +kernel) hvalue
      exact ⟨{ config with distance := x },
        by simp only [hueDisplace, HueDisplaceConfig.setField, hx]; rfl, rfl⟩
    · obtain ⟨b, rfl, hb⟩ := Field.admits_bool hvalue
      exact ⟨{ config with scaleByValue := b },
        by simp only [hueDisplace, HueDisplaceConfig.setField, hb]; rfl, rfl⟩
    · obtain ⟨x, rfl, hx⟩ := Field.admits_float (by decide +kernel) hvalue
      exact ⟨{ config with rotate := x },
        by simp only [hueDisplace, HueDisplaceConfig.setField, hx]; rfl, rfl⟩
  determined := by
    rintro ⟨a, b, c⟩ ⟨a', b', c'⟩ h
    cases h
    rfl
  succeeds r _ _ :=
    (Registry.proper_builtInOf (.memory []) .hueDisplace
      (by simp [Registry.builtInOf]) r).succeeds ⟨_, rfl⟩

/-- Every option is the name of a target. -/
theorem parse_target {name : String} (h : name ∈ ConvergeTarget.all.map ConvergeTarget.name) :
    ∃ target, ConvergeTarget.parse name = .ok target := by
  simp only [ConvergeTarget.all, List.map_cons, List.map_nil, List.mem_cons, List.not_mem_nil,
    or_false] at h
  rcases h with rfl | rfl | rfl
  · exact ⟨.center, by decide⟩
  · exact ⟨.ring, by decide⟩
  · exact ⟨.horizon, by decide⟩

theorem lawful_converge : converge.Lawful where
  distinct := by decide
  sound := by decide +kernel
  names _ := rfl
  record := ⟨"ConvergeConfig", rfl⟩
  set config f hf value hvalue := by
    simp only [converge, Effect.converge, List.mem_cons, List.not_mem_nil, or_false] at hf
    rcases hf with rfl | rfl | rfl
    · obtain ⟨s, rfl, hs⟩ := Field.admits_choice hvalue
      exact ⟨{ config with target := s },
        by simp only [converge, ConvergeConfig.setField, hs]; rfl, rfl⟩
    · obtain ⟨x, rfl, hx⟩ := Field.admits_float (by decide +kernel) hvalue
      exact ⟨{ config with strength := x },
        by simp only [converge, ConvergeConfig.setField, hx]; rfl, rfl⟩
    · obtain ⟨x, rfl, hx⟩ := Field.admits_float (by decide +kernel) hvalue
      exact ⟨{ config with radius := x },
        by simp only [converge, ConvergeConfig.setField, hx]; rfl, rfl⟩
  determined := by
    rintro ⟨a, b, c⟩ ⟨a', b', c'⟩ h
    cases h
    rfl
  succeeds r hfits _ := by
    have hproper :=
      Registry.proper_builtInOf (.memory []) .converge (by simp [Registry.builtInOf]) r
    -- The form holds one of the options, or what it holds at first, which is one.
    have htarget : (r.config ConvergeConfig.decode {}).target
        ∈ ConvergeTarget.all.map ConvergeTarget.name := by
      have hadmits := hfits _ List.mem_cons_self _ List.mem_cons_self rfl
      rcases hadmits with hoption | hdefault
      · exact hoption
      · exact List.mem_map.2 ⟨.center, List.mem_cons_self, hdefault.symm⟩
    obtain ⟨target, hparse⟩ := parse_target htarget
    have hactions : ∃ as, Effect.converge.register r = .ofActions as := by
      simp only [Effect.converge, hparse]
      exact ⟨_, rfl⟩
    exact hproper.succeeds hactions

theorem lawful_colorize : colorize.Lawful where
  distinct := by decide
  sound := by decide +kernel
  names _ := rfl
  record := ⟨"ColorizeConfig", rfl⟩
  set config f hf value hvalue := by
    simp only [colorize, Effect.colorize, List.mem_cons, List.not_mem_nil, or_false] at hf
    rcases hf with rfl | rfl
    · obtain ⟨c, rfl, hc⟩ := Field.admits_color hvalue
      exact ⟨{ config with color := c },
        by simp only [colorize, ColorizeConfig.setField, hc]; rfl, rfl⟩
    · obtain ⟨x, rfl, hx⟩ := Field.admits_float (by decide +kernel) hvalue
      exact ⟨{ config with amount := x },
        by simp only [colorize, ColorizeConfig.setField, hx]; rfl, rfl⟩
  determined := by
    rintro ⟨a, b⟩ ⟨a', b'⟩ h
    cases h
    rfl
  succeeds r _ _ :=
    (Registry.proper_builtInOf (.memory []) .colorize
      (by simp [Registry.builtInOf]) r).succeeds ⟨_, rfl⟩

/-- The grid of a timeline has sizes that a grid can have. -/
theorem sizes_sample {picture : Option Picture} {timeline : TimelineConfig}
    {grid : ParticleGrid Float32} (h : ParticleGrid.sample picture timeline = .ok grid) :
    ∃ count, gridParticleCount grid.width grid.height = .ok count := by
  obtain ⟨hcount, hfilled⟩ := ParticleGrid.filled_sample h
  rwa [hfilled.width_eq, hfilled.height_eq]

/-- A picture that there is can be faded to from a grid that there is. -/
theorem fadeTo_ok {pictures : Table Picture} {r : Request} {name : String}
    (hname : name ∈ Table.names pictures)
    (hpictures : ∀ e ∈ pictures, e.1 ≠ "" ∧ e.2.width ≠ 0 ∧ e.2.height ≠ 0)
    {count : UInt32} (hgrid : gridParticleCount r.grid.width r.grid.height = .ok count) :
    name ≠ "" ∧ ∃ p actions, Table.get? pictures name = some p ∧ fadeTo r p = .ok actions := by
  obtain ⟨e, he, rfl⟩ := List.mem_map.1 hname
  obtain ⟨p, hp⟩ : ∃ p, Table.get? pictures e.1 = some p := by
    cases hget : Table.get? pictures e.1 with
    | none => exact absurd hname (Table.get?_eq_none_iff.1 hget)
    | some p => exact ⟨p, rfl⟩
  obtain ⟨-, hwidth, hheight⟩ := hpictures _ (Table.mem_of_get? hp)
  have hpixels : p.isEmpty = false := by
    simp only [Picture.isEmpty, decide_eq_false hwidth, decide_eq_false hheight, Bool.or_self]
  obtain ⟨grid, hgrid⟩ : ∃ grid : ParticleGrid Float32,
      ParticleGrid.ofPicture p r.grid.width r.grid.height r.timeline.scaling = .ok grid :=
    ParticleGrid.ofPicture_ok_iff.2 ⟨hpixels, count, hgrid⟩
  obtain ⟨actions, hfade⟩ : ∃ actions, fadeTo r p = .ok actions := by
    rw [fadeTo, hgrid]
    exact ⟨_, rfl⟩
  exact ⟨(hpictures e he).1, p, actions, hp, hfade⟩

theorem lawful_changeImage (pictures : Table Picture) : (changeImage pictures).Lawful where
  distinct := by simp [changeImage, Effect.changeImage, Effect.changeImageOf]
  sound := by simp [changeImage, Effect.changeImage, Effect.changeImageOf, FieldKind.Sound]
  names _ := rfl
  record := ⟨"ChangeImageConfig", rfl⟩
  set config f hf value hvalue := by
    simp only [changeImage, Effect.changeImage, Effect.changeImageOf, List.mem_cons,
      List.not_mem_nil, or_false] at hf
    subst hf
    obtain ⟨s, rfl, hs⟩ := Field.admits_choice hvalue
    exact ⟨{ config with image := s },
      by simp only [changeImage, ChangeImageConfig.setField, hs]; rfl, rfl⟩
  determined := by
    rintro ⟨a⟩ ⟨a'⟩ h
    cases h
    rfl
  succeeds r hfits hready := by
    obtain ⟨hsome, hpictures, picture, timeline, hsample⟩ := hready
    obtain ⟨count, hgrid⟩ := sizes_sample hsample
    have hproper := Registry.proper_builtInOf (.memory pictures) (.changeImage pictures)
      (by simp [Registry.builtInOf, Effect.changeImage]) r
    have himage : (r.config ChangeImageConfig.decode {}).image ∈ Table.names pictures := by
      have hadmits := hfits _ List.mem_cons_self _ List.mem_cons_self rfl
      rcases hadmits with hoption | hdefault
      · exact hoption
      · have hfirst : (r.config ChangeImageConfig.decode {}).image
            = (Table.names pictures).headD "" := hdefault
        rw [hfirst]
        cases pictures with
        | nil => exact absurd rfl hsome
        | cons e rest => exact List.mem_cons_self
    obtain ⟨hname, p, actions, hget, hfade⟩ := fadeTo_ok himage hpictures hgrid
    have hactions : ∃ as, (Effect.changeImage pictures).register r = .ofActions as := by
      simp only [Effect.changeImage, Effect.changeImageOf, PictureSource.memory, if_neg hname, hget,
        hfade]
      exact ⟨actions, rfl⟩
    exact hproper.succeeds hactions

/-- **The form and the type of every effect** that comes with the program are
in step. -/
theorem agrees_builtIn (pictures : Table Picture) : ∀ t ∈ builtIn pictures, t.Agrees := by
  intro t ht
  simp only [builtIn, List.mem_cons, List.not_mem_nil, or_false] at ht
  rcases ht with rfl | rfl | rfl | rfl | rfl
  · exact lawful_wave.agrees
  · exact lawful_hueDisplace.agrees
  · exact lawful_converge.agrees
  · exact lawful_colorize.agrees
  · exact (lawful_changeImage pictures).agrees

/-- A form with one picture that is loaded with the name of another, and a wave
that comes back from a form that held something else. -/
theorem agrees_builtIn_onePicture :
    let pictures : Table Picture := [("sky", .ofFn 1 1 fun _ => ⟨0, 0, 0, 255⟩)]
    let image := changeImage pictures
    let c : Json := .object [("image", .text "night"), ("speed", .double 3)]
    (∃ config, image.decode (image.loadedForm [] c).config = .ok config) ∧
      (∃ r : Request, image.ready r ∧ (image.effect.register r).Succeeds) ∧
      wave.decode (wave.loadedForm [.apply c] (wave.toJson {})).config = .ok {} := by
  intro pictures image c
  have hc : ∀ n ∈ c.numbers, n.isFinite = true := by decide +kernel
  have himage : image.Agrees := agrees_builtIn pictures image (by simp [builtIn, image])
  have hwave : wave.Agrees := agrees_builtIn pictures wave List.mem_cons_self
  obtain ⟨grid, hgrid⟩ : ∃ grid : ParticleGrid Float32,
      ParticleGrid.sample none { gridWidth := 2, gridHeight := 1 } = .ok grid := by
    have hcount : gridParticleCount 2 1 = .ok 2 := by decide
    exact ParticleGrid.build_ok_iff.2 ⟨2, hcount⟩
  have hready : (∀ e ∈ pictures, e.1 ≠ "" ∧ e.2.width ≠ 0 ∧ e.2.height ≠ 0) := by
    simp [pictures, Picture.ofFn]
  refine ⟨?_, ?_, ?_⟩
  · obtain ⟨config, hdecode, -⟩ := himage.decoded [] c hc
    exact ⟨config, hdecode⟩
  · refine ⟨⟨⟨"ChangeImage", 0, 1, 1, (image.loadedForm [] c).config⟩, {}, grid, ⟨0, 0, 1, 1⟩, 0⟩,
      ?_, ?_⟩
    · exact ⟨nofun, hready, none, _, hgrid⟩
    · exact himage.registered [] c hc _ rfl ⟨nofun, hready, none, _, hgrid⟩
  · refine hwave.restored [.apply c] {} ?_
    exact lawful_wave.fits_default rfl

end TypedEffect

end ParticleTimeline
