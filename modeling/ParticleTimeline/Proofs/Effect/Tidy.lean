import ParticleTimeline.Proofs.Effect.BuiltIn
import ParticleTimeline.Proofs.Glsl.Braces
/-!
# Effects that keep braces balanced

A registration is tidy when no name it declares or binds has a brace and what
it adds to the main function and before it is balanced, each taken as a whole
(`Registration.Tidy`). Then everything it puts into a stage is balanced,
declarations included (`Registration.Tidy.balanced`). A registry is
tidy when its ids are plain, no effect takes anything back, and every
registration that succeeds is tidy; the registry of the built-in effects is,
wherever pictures come from and whatever an instance is configured with
(`Registry.tidy_builtInOf`).
-/

namespace ParticleTimeline

namespace Action

/-- The name that an action declares or binds. -/
def name? : Action → Option String
  | .declare _ _ _ name | .bindUniform name .. | .bindAttribute name .. => some name
  | .addGlobal .. | .addMain .. | .mark _ | .rollback .. | .onFrame _ | .onTeardown _ => none

/-- The text that an action adds of its own. -/
def added? : Action → Option String
  | .addGlobal _ text | .addMain _ text => some text
  | .declare .. | .mark _ | .rollback .. | .bindUniform .. | .bindAttribute .. | .onFrame _
  | .onTeardown _ => none

/-- An action that adds a plain name, or balanced text. -/
structure Tidy (a : Action) : Prop where
  appends : a.Appends
  plain : ∀ name ∈ a.name?, Braceless name
  added : ∀ text ∈ a.added?, Balanced text

theorem Tidy.of_name {a : Action} {name : String} (happends : a.Appends)
    (hname : a.name? = some name) (hadded : a.added? = none) (h : Braceless name) : a.Tidy where
  appends := happends
  plain := by
    rw [hname]
    rintro _ ⟨⟩
    exact h
  added := by
    rw [hadded]
    exact nofun

theorem Tidy.of_added {a : Action} {text : String} (happends : a.Appends)
    (hname : a.name? = none) (hadded : a.added? = some text) (h : Balanced text) : a.Tidy where
  appends := happends
  plain := by
    rw [hname]
    exact nofun
  added := by
    rw [hadded]
    rintro _ ⟨⟩
    exact h

/-- Text in one section, under a condition or not, is balanced in every
section if it is in its own. -/
theorem balanced_get_only {p : Prop} [Decidable p] {text : String} {k l : Section}
    (h : l = k → Balanced text) :
    Balanced ((if p then Sections.only k text else .blank).get l) := by
  split
  · rw [Sections.get_only]
    split
    · exact h ‹_›
    · decide
  · exact Sections.balanced_blank l

/-- Only in the two sections that it adds to does it matter what text an
action adds. -/
theorem balanced_text {a : Action} {k : Section} (hplain : ∀ name ∈ a.name?, Braceless name)
    (hadded : k = .globals ∨ k = .body → ∀ text ∈ a.added?, Balanced text) (stage : ShaderStage) :
    Balanced ((a.text stage).get k) := by
  have hblank : Balanced (Sections.blank.get k) := Sections.balanced_blank k
  cases a with
  | declare st q type name =>
    exact balanced_get_only fun _ => (braceless_declaration (hplain name rfl) q type).balanced
  | addGlobal st text =>
    exact balanced_get_only fun hk => balanced_endLine.2 (hadded (.inl hk) text rfl)
  | addMain st text =>
    exact balanced_get_only fun hk => balanced_endLine.2 (hadded (.inr hk) text rfl)
  | mark | rollback | bindUniform | bindAttribute | onFrame | onTeardown => exact hblank

theorem balanced_texts {as : List Action} {k : Section} (happends : ∀ a ∈ as, a.Appends)
    (hplain : ∀ a ∈ as, ∀ name ∈ a.name?, Braceless name)
    (hadded : k = .globals ∨ k = .body → ∀ a ∈ as, ∀ text ∈ a.added?, Balanced text)
    (stage : ShaderStage) : Balanced ((texts stage as).get k) := by
  rw [texts_of_appends happends, Sections.get_concat, List.map_map]
  refine Balanced.join fun line hline => ?_
  obtain ⟨a, ha, rfl⟩ := List.mem_map.1 hline
  exact balanced_text (hplain a ha) (fun hk => hadded hk a ha) stage

/-- The identifiers of plain names are plain. -/
theorem braceless_entries {α : Type} {binding? : Action → Option (Binding α)}
    (hname : ∀ a b, binding? a = some b → a.name? = some b.name) {as : List Action}
    (hplain : ∀ a ∈ as, ∀ name ∈ a.name?, Braceless name) (n : Nat) :
    ∀ name ∈ Table.names (Allocator.entries ⟨some n, as.filterMap binding?⟩), Braceless name := by
  intro name hin
  simp only [Table.names, Allocator.entries, List.map_map, List.mem_map, List.mem_filterMap] at hin
  obtain ⟨b, ⟨a, ha, hbinding⟩, rfl⟩ := hin
  exact braceless_identifier (hplain a ha b.name (hname a b hbinding)) n

theorem name?_of_uniform? (a : Action) (b : Binding Uniform) (h : a.uniform? = some b) :
    a.name? = some b.name := by
  cases a with
  | bindUniform name type value =>
    obtain rfl := Option.some.inj h
    rfl
  | declare | addGlobal | addMain | mark | rollback | bindAttribute | onFrame | onTeardown =>
    cases h

theorem name?_of_attribute? (a : Action) (b : Binding Attribute) (h : a.attribute? = some b) :
    a.name? = some b.name := by
  cases a with
  | bindAttribute name type value =>
    obtain rfl := Option.some.inj h
    rfl
  | declare | addGlobal | addMain | mark | rollback | bindUniform | onFrame | onTeardown => cases h

end Action

namespace Registration

/-- A registration with plain names that leaves braces balanced in whatever
it adds to. -/
structure Tidy (g : Registration) : Prop where
  plain : ∀ a ∈ g.actions, ∀ name ∈ a.name?, Braceless name
  main : ∀ stage, Balanced ((Action.texts stage g.actions).get .body)
  globals : ∀ stage, Balanced ((Action.texts stage g.actions).get .globals)

/-- **Everything that a tidy registration puts into a stage is balanced.** -/
theorem Tidy.balanced {g : Registration} (h : g.Tidy) (happends : ∀ a ∈ g.actions, a.Appends)
    (stage : ShaderStage) : (Action.texts stage g.actions).Balanced := by
  intro k
  by_cases hglobals : k = .globals
  · exact hglobals ▸ h.globals stage
  by_cases hmain : k = .body
  · exact hmain ▸ h.main stage
  exact Action.balanced_texts happends h.plain (by simp [hglobals, hmain]) stage

/-- Tidy actions make a tidy registration. -/
theorem tidy_of_actions {g : Registration} (h : ∀ a ∈ g.actions, a.Tidy) : g.Tidy where
  plain a ha := (h a ha).plain
  main := Action.balanced_texts (fun a ha => (h a ha).appends) (fun a ha => (h a ha).plain)
    fun _ a ha => (h a ha).added
  globals := Action.balanced_texts (fun a ha => (h a ha).appends) (fun a ha => (h a ha).plain)
    fun _ a ha => (h a ha).added

theorem tidy_ofActions {as : List Action} (h : ∀ a ∈ as, a.Tidy) : (ofActions as).Tidy :=
  tidy_of_actions (by simpa using h)

end Registration

/-- A registry whose ids are plain words in one line, and whose effects take
nothing back and leave braces balanced whenever they succeed. -/
structure Registry.Tidy (r : Registry) : Prop where
  ids : ∀ e ∈ r.effects, Braceless e.id ∧ '\n' ∉ e.id.toList
  appends : r.Appends
  registrations : ∀ e ∈ r.effects, ∀ q : Request,
    (e.register q).ending = .succeeds → (e.register q).Tidy

/-! ## The built-in effects -/

namespace Request

theorem braceless_identifier (r : Request) {name : String} (h : Braceless name) :
    Braceless (r.identifier name) :=
  ParticleTimeline.braceless_identifier h r.number

/-- Whatever the window and the repetitions of the instance are. -/
theorem braceless_progress (r : Request) : Braceless r.progress := by
  have hperiod := (FloatText.spelled_literal r.subject.period).braceless
  have hbegin := (FloatText.spelled_literal r.subject.timeBegin).braceless
  unfold progress
  split
  · decide
  · simp only [braceless_append, hperiod, hbegin, and_true]
    and_intros <;> exact braceless_ofList (by decide)

end Request

theorem ConvergeTarget.braceless_place (t : ConvergeTarget) {radius : String}
    (h : Braceless radius) : Braceless (t.place radius) := by
  cases t with
  | center => exact braceless_ofList (by decide)
  | ring => exact braceless_append.2 ⟨braceless_ofList (by decide), h⟩
  | horizon => exact braceless_ofList (by decide)

namespace Effect

open ParticleTimeline.Registration (tidy_ofActions)

theorem tidy_wave (q : Request) : (Effect.wave.register q).Tidy := by
  have hamplitude : Braceless (q.identifier "amplitude") := q.braceless_identifier (by decide)
  have hwavelength : Braceless (q.identifier "wavelength") := q.braceless_identifier (by decide)
  have hdirection : Braceless (q.identifier "direction") := q.braceless_identifier (by decide)
  have hspeed : Braceless (q.identifier "speed") := q.braceless_identifier (by decide)
  refine tidy_ofActions ?_
  simp only [List.forall_mem_cons, List.not_mem_nil, false_imp_iff, implies_true, and_true]
  refine ⟨.of_name trivial rfl rfl (by decide), .of_name trivial rfl rfl (by decide),
    .of_name trivial rfl rfl (by decide), .of_name trivial rfl rfl (by decide),
    .of_added trivial rfl rfl (Braceless.balanced ?_)⟩
  simp only [braceless_append, hamplitude, hwavelength, hdirection, hspeed, q.braceless_progress,
    and_true]
  and_intros <;> exact braceless_ofList (by decide)

theorem tidy_hueDisplace (q : Request) : (Effect.hueDisplace.register q).Tidy := by
  have hdistance : Braceless (q.identifier "distance") := q.braceless_identifier (by decide)
  have hrotate : Braceless (q.identifier "rotate") := q.braceless_identifier (by decide)
  have hscale : Braceless
      (if (q.config HueDisplaceConfig.decode {}).scaleByValue then " * hsv.z" else "") := by
    split <;> decide
  refine tidy_ofActions ?_
  simp only [List.forall_mem_cons, List.not_mem_nil, false_imp_iff, implies_true, and_true]
  refine ⟨.of_name trivial rfl rfl (by decide), .of_name trivial rfl rfl (by decide),
    .of_added trivial rfl rfl (Braceless.balanced ?_)⟩
  simp only [braceless_append, hdistance, hrotate, hscale, q.braceless_progress, and_true]
  and_intros <;> exact braceless_ofList (by decide)

/-- The helper function is the one text of a built-in effect with braces of
its own. -/
theorem balanced_easing {ease : String} (h : Braceless ease) :
    Balanced ("float " ++ ease
      ++ "(float t) \x7b\n    float s = sin(t * 3.14159265359);\n"
      ++ "    return s * s;\n\x7d") := by
  have hhead : Braceless ("float " ++ ease) :=
    braceless_append.2 ⟨braceless_ofList (by decide), h⟩
  have hopening : Braces.depth 0 "(float t) \x7b\n    float s = sin(t * 3.14159265359);\n".toList
      = some 1 := Braces.depth_ofList (by decide)
  have hclosing : Braces.depth 1 "    return s * s;\n\x7d".toList = some 0 :=
    Braces.depth_ofList (by decide)
  rw [balanced_iff, String.toList_append, String.toList_append, Braces.depth_append,
    Braces.depth_append, Braces.depth_of_braceless hhead, Option.bind_some, hopening,
    Option.bind_some, hclosing]

theorem tidy_converge (q : Request) (h : (Effect.converge.register q).ending = .succeeds) :
    (Effect.converge.register q).Tidy := by
  have hease : Braceless (q.identifier "convergeEase") := q.braceless_identifier (by decide)
  have hstrength : Braceless (q.identifier "strength") := q.braceless_identifier (by decide)
  have hradius : Braceless (q.identifier "radius") := q.braceless_identifier (by decide)
  simp only [Effect.converge] at h ⊢
  -- An unknown target makes the registration fail.
  cases hparse : ConvergeTarget.parse (q.config ConvergeConfig.decode {}).target with
  | error complaint =>
    rw [hparse] at h
    cases h
  | ok target =>
    refine tidy_ofActions ?_
    simp only [List.forall_mem_cons, List.not_mem_nil, false_imp_iff, implies_true, and_true]
    refine ⟨.of_name trivial rfl rfl (by decide), .of_name trivial rfl rfl (by decide),
      .of_added trivial rfl rfl (balanced_easing hease),
      .of_added trivial rfl rfl (Braceless.balanced ?_)⟩
    simp only [braceless_append, hease, hstrength, target.braceless_place hradius,
      q.braceless_progress, and_true]
    and_intros <;> exact braceless_ofList (by decide)

theorem tidy_colorize (q : Request) : (Effect.colorize.register q).Tidy := by
  have hcolor : Braceless (q.identifier "color") := q.braceless_identifier (by decide)
  have hamount : Braceless (q.identifier "amount") := q.braceless_identifier (by decide)
  refine tidy_ofActions ?_
  simp only [List.forall_mem_cons, List.not_mem_nil, false_imp_iff, implies_true, and_true]
  refine ⟨.of_name trivial rfl rfl (by decide), .of_name trivial rfl rfl (by decide),
    .of_added trivial rfl rfl (Braceless.balanced ?_)⟩
  simp only [braceless_append, hcolor, hamount, q.braceless_progress, and_true]
  and_intros <;> exact braceless_ofList (by decide)

/-- A fade is tidy, whatever has become of its picture. -/
theorem tidy_changeImageOf (source : PictureSource) (q : Request) :
    ((Effect.changeImageOf source).register q).Tidy := by
  have htarget : Braceless (q.identifier "targetRgb") := q.braceless_identifier (by decide)
  refine Registration.tidy_of_actions ?_
  rcases changeImageOf_actions source q with hnone | ⟨p, actions, hfade, hactions⟩
  · simp [hnone]
  · obtain ⟨grid, -, rfl⟩ := fadeTo_eq_ok hfade
    rw [hactions]
    simp only [List.forall_mem_cons, List.not_mem_nil, false_imp_iff, implies_true, and_true]
    refine ⟨.of_name trivial rfl rfl (by decide),
      .of_added trivial rfl rfl (Braceless.balanced ?_)⟩
    simp only [braceless_append, htarget, q.braceless_progress, and_true]
    and_intros <;> exact braceless_ofList (by decide)

theorem tidy_dummy (q : Request) : (Effect.dummy.register q).Tidy :=
  tidy_ofActions fun _ ha => absurd ha List.not_mem_nil

end Effect

/-- **The built-in effects are tidy**, wherever their pictures come from and with
any configuration of any instance. -/
theorem Registry.tidy_builtInOf (source : PictureSource) : (builtInOf source).Tidy where
  ids := by
    have hids : ∀ id ∈ ["Wave", "HueDisplace", "Converge", "Colorize", "ChangeImage", "Dummy"],
        Braceless id ∧ '\n' ∉ id.toList := by decide
    intro e he
    exact hids e.id (List.mem_map_of_mem he)
  appends := appends_builtInOf source
  registrations := by
    intro e he q hsucceeds
    simp only [builtInOf, List.mem_cons, List.not_mem_nil, or_false] at he
    rcases he with rfl | rfl | rfl | rfl | rfl | rfl
    · exact Effect.tidy_wave q
    · exact Effect.tidy_hueDisplace q
    · exact Effect.tidy_converge q hsucceeds
    · exact Effect.tidy_colorize q
    · exact Effect.tidy_changeImageOf source q
    · exact Effect.tidy_dummy q

end ParticleTimeline
