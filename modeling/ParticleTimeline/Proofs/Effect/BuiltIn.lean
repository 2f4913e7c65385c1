import ParticleTimeline.Proofs.Effect.Contribution
/-!
# What the built-in effects keep to

Whatever they are asked, and wherever their pictures come from, the effects
that come with the program bind no name twice, declare through their
allocators alone and take nothing back (`Registry.proper_builtInOf`). Over
pictures in memory they end (`Registry.ends_builtIn`), and what they do depends
neither on the clock nor on what else is on the tracks
(`Registry.register_builtIn`). So the registry of the built-in effects meets
what is asked of a registry elsewhere.
-/

namespace ParticleTimeline

namespace Registration

@[simp] theorem actions_ofActions (as : List Action) : (ofActions as).actions = as := by
  induction as with
  | nil => rfl
  | cons a as ih => exact congrArg (a :: ·) ih

@[simp] theorem actions_failing (effectId complaint : String) :
    (failing effectId complaint).actions = [] := rfl

end Registration

/-- Waiting first changes nothing that is contributed. -/
theorem Move.actions_waits (n : Nat) (ms : List Move) :
    Move.actions (List.replicate n Move.wait ++ ms) = Move.actions ms := by
  induction n with
  | zero => rfl
  | succ n ih => exact ih

/-! ## A fade -/

/-- A fade binds one attribute and adds one statement. -/
theorem fadeTo_eq_ok {r : Request} {p : Picture} {actions : List Action}
    (h : fadeTo r p = .ok actions) : ∃ grid,
      ParticleGrid.ofPicture p r.grid.width r.grid.height r.timeline.scaling = .ok grid ∧
      actions = [.bindAttribute "targetRgb" .vec3 ⟨grid.rgb⟩,
        .addMain .vertex ("color = mix(color, " ++ r.identifier "targetRgb"
          ++ ", smoothstep(0.0, 1.0, " ++ r.progress ++ "));")] := by
  unfold fadeTo at h
  cases hgrid : (ParticleGrid.ofPicture p r.grid.width r.grid.height r.timeline.scaling :
      Except ConfigError (ParticleGrid Float32)) with
  | error e => simp [hgrid, bind, Except.bind] at h
  | ok grid =>
    simp only [hgrid, bind, Except.bind, pure, Except.pure, Except.ok.injEq] at h
    exact ⟨grid, rfl, h.symm⟩

/-- A fade contributes what is done with its picture, or nothing. -/
theorem Effect.changeImageOf_actions (source : PictureSource) (r : Request) :
    ((changeImageOf source).register r).actions = [] ∨
      ∃ p actions, fadeTo r p = .ok actions ∧
        ((changeImageOf source).register r).actions = actions := by
  have hwaits : ∀ n (ending : Ending),
      ({ moves := List.replicate n Move.wait, ending } : Registration).actions = [] := by
    intro n ending
    have h := Move.actions_waits n []
    rwa [List.append_nil] at h
  simp only [changeImageOf]
  split
  · exact .inl rfl
  · split
    · exact .inl (hwaits _ _)
    · exact .inl (hwaits _ _)
    · rename_i p hanswer
      cases hfade : fadeTo r p with
      | error e => exact .inl (hwaits _ _)
      | ok actions =>
        refine .inr ⟨p, actions, hfade, ?_⟩
        rw [Registration.actions, Move.actions_waits]
        exact Registration.actions_ofActions actions

/-- A fade ends if an answer comes. -/
theorem Effect.changeImageOf_ends {source : PictureSource}
    (h : ∀ r name, (source.fetch r name).answer ≠ none) (r : Request) :
    ((changeImageOf source).register r).ending ≠ .never := by
  simp only [changeImageOf]
  split
  · exact nofun
  · split
    · rename_i hanswer
      exact absurd hanswer (h _ _)
    · exact nofun
    · split <;> exact nofun

theorem PictureSource.memory_answers (pictures : Table Picture) (r : Request) (name : String) :
    ((memory pictures).fetch r name).answer ≠ none := by
  simp only [memory]
  split <;> exact nofun

/-! ## The registry -/

/-- A registration that cannot disturb its build. -/
structure Registration.Proper (g : Registration) : Prop where
  bindsOnce : Action.BindsOnce g.actions
  keepsToAllocators : ∀ a ∈ g.actions, a.KeepsToAllocators
  appends : ∀ a ∈ g.actions, a.Appends

theorem Registration.Proper.of_nothing {g : Registration} (h : g.actions = []) : g.Proper := by
  constructor
  · rw [h]
    exact ⟨List.nodup_nil, List.nodup_nil⟩
  · simp [h]
  · simp [h]

theorem Registration.Proper.faultless {g : Registration} (h : g.Proper) : g.Faultless :=
  faultless_of_appends h.appends h.bindsOnce

namespace Registry

/-- **No built-in effect can disturb a build**, wherever its pictures come
from. -/
theorem proper_builtInOf (source : PictureSource) : ∀ e ∈ (builtInOf source).effects,
    ∀ q : Request, (e.register q).Proper := by
  intro e he q
  simp only [builtInOf, List.mem_cons, List.not_mem_nil, or_false] at he
  rcases he with rfl | rfl | rfl | rfl | rfl | rfl
  · have hnames : ["amplitude", "wavelength", "direction", "speed"].Nodup := by decide
    exact ⟨⟨hnames, List.nodup_nil⟩, of_decide_eq_true rfl, of_decide_eq_true rfl⟩
  · have hnames : ["distance", "rotate"].Nodup := by decide
    exact ⟨⟨hnames, List.nodup_nil⟩, of_decide_eq_true rfl, of_decide_eq_true rfl⟩
  -- Only the looked-up target and picture decide whether a registration fails.
  · simp only [Effect.converge]
    split
    · exact .of_nothing rfl
    · have hnames : ["strength", "radius"].Nodup := by decide
      exact ⟨⟨hnames, List.nodup_nil⟩, of_decide_eq_true rfl, of_decide_eq_true rfl⟩
  · have hnames : ["color", "amount"].Nodup := by decide
    exact ⟨⟨hnames, List.nodup_nil⟩, of_decide_eq_true rfl, of_decide_eq_true rfl⟩
  · rcases Effect.changeImageOf_actions source q with hnone | ⟨p, actions, hfade, hactions⟩
    · exact .of_nothing hnone
    · obtain ⟨grid, -, rfl⟩ := fadeTo_eq_ok hfade
      have hnames : ["targetRgb"].Nodup := by decide
      constructor
      · rw [hactions]
        exact ⟨List.nodup_nil, hnames⟩
      · rw [hactions]
        exact of_decide_eq_true rfl
      · rw [hactions]
        exact of_decide_eq_true rfl
  · exact .of_nothing rfl

variable (source : PictureSource) (pictures : Table Picture)

theorem bindsOnce_builtInOf : (builtInOf source).BindsOnce :=
  fun e he q => (proper_builtInOf source e he q).bindsOnce

theorem appends_builtInOf : (builtInOf source).Appends :=
  fun e he q => (proper_builtInOf source e he q).appends

theorem faultless_builtInOf : (builtInOf source).Faultless :=
  (appends_builtInOf source).faultless (bindsOnce_builtInOf source)

theorem keepsToAllocators_builtInOf : (builtInOf source).KeepsToAllocators :=
  fun e he q => (proper_builtInOf source e he q).keepsToAllocators

/-- Every built-in effect ends, as long as pictures can be had or not. -/
theorem ends_builtInOf (h : ∀ r name, (source.fetch r name).answer ≠ none) :
    ∀ e ∈ (builtInOf source).effects, ∀ q : Request, (e.register q).ending ≠ .never := by
  intro e he q
  simp only [builtInOf, List.mem_cons, List.not_mem_nil, or_false] at he
  rcases he with rfl | rfl | rfl | rfl | rfl | rfl
  · exact nofun
  · exact nofun
  · simp only [Effect.converge]
    split <;> exact nofun
  · exact nofun
  · exact Effect.changeImageOf_ends h q
  · exact nofun

theorem ends_builtIn :
    ∀ e ∈ (builtIn pictures).effects, ∀ q : Request, (e.register q).ending ≠ .never :=
  ends_builtInOf _ (PictureSource.memory_answers pictures)

/-- No built-in effect looks at the tracks or at the clock. -/
theorem register_builtIn : ∀ e ∈ (builtIn pictures).effects,
    ∀ (q : Request) (tracks : List Track) (moment : FrameContext),
      e.register { q with timeline := { q.timeline with tracks }, moment } = e.register q := by
  intro e he q tracks moment
  simp only [builtIn, builtInOf, List.mem_cons, List.not_mem_nil, or_false] at he
  rcases he with rfl | rfl | rfl | rfl | rfl | rfl
  · rfl
  · rfl
  · rfl
  · rfl
  · rfl
  · rfl

end Registry

end ParticleTimeline
