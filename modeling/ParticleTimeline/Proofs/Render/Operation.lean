import ParticleTimeline.Proofs.Render.Polling
/-!
# Operations on a renderer

What can be done to a renderer is one of a few operations, and a history is a
list of them. What one operation can do to a sound renderer is said once
(`Operation.perform_of_sound`): it leaves what `Operation.Performed` lists,
or it crashes for a reason that effects have no part in. Soundness is kept
(`Operation.Performed.sound`), so the same holds of histories
(`Operation.run_of_sound`), which begin with a renderer that is created
(`Renderer.create_eq_ok`).
-/

namespace ParticleTimeline

/-- Something done to a renderer. Effects can have a state of their own, which
shows as their coming to act differently. -/
inductive Operation where
  | setTimeline (timeline : TimelineConfig)
  | setPicture (picture : Option Picture)
  | rebuild
  | resize (width height : UInt32)
  | frame (now : Nat)
  | finishBuild
  | report (error : EffectError)
  | changeClock (change : Clock Float → Clock Float)
  | changeEffects (registry : Registry)

namespace Operation

/-- What a refusal leaves is the renderer as it was. -/
def orUnchanged {ε : Type} (r : Renderer) : Except Crash (Except ε Renderer) → Except Crash Renderer
  | .ok (.ok r) => .ok r
  | .ok (.error _) => .ok r
  | .error crash => .error crash

/-- The renderer after an operation. -/
def perform : Operation → Renderer → Except Crash Renderer
  | setTimeline timeline, r => orUnchanged r (r.setTimeline timeline)
  | setPicture picture, r => orUnchanged r (r.setPicture picture)
  | rebuild, r => orUnchanged r r.rebuild
  | resize width height, r => (r.resize width height).map Prod.fst
  | frame now, r => (r.frame now).map Prod.fst
  | finishBuild, r => r.finishBuild.map Prod.fst
  | report error, r => .ok { r with reports := r.reports.report error }
  | changeClock change, r => .ok { r with clock := change r.clock }
  | changeEffects registry, r => .ok { r with registry }

/-- The renderer after some operations, one after the other. -/
def run : List Operation → Renderer → Except Crash Renderer
  | [], r => .ok r
  | op :: ops, r =>
    match op.perform r with
    | .ok r => run ops r
    | .error crash => .error crash

theorem run_append (earlier later : List Operation) (r : Renderer) :
    run (earlier ++ later) r =
      match run earlier r with
      | .ok r => run later r
      | .error crash => .error crash := by
  induction earlier generalizing r with
  | nil => rfl
  | cons op ops ih =>
    simp only [List.cons_append, run]
    cases op.perform r with
    | ok r => exact ih r
    | error crash => rfl

/-! ## What an operation can do -/

/-- Whether an operation is there to start a build. -/
def starts : Operation → Bool
  | setTimeline _ | setPicture _ | rebuild => true
  | _ => false

/-- The renderer as an operation leaves it before its build begins, and what
is queued then; nothing if the operation is refused or starts no build. -/
def begun? : Operation → Renderer → Option (Renderer × List Queued)
  | setTimeline timeline, r =>
    match Build.queue timeline r.registry, ParticleGrid.sample r.picture timeline with
    | .ok queue, .ok grid =>
      some ({ r with
        clock := r.clock.setPeriod timeline.duration
        feedback := (r.feedback.setMode r.device timeline.accumulation).1
        device := (r.feedback.setMode r.device timeline.accumulation).2
        timeline
        grid }, queue)
    | _, _ => none
  | setPicture picture, r =>
    match Build.queue r.timeline r.registry, ParticleGrid.sample picture r.timeline with
    | .ok queue, .ok grid => some ({ r with picture, grid }, queue)
    | _, _ => none
  | rebuild, r =>
    match Build.queue r.timeline r.registry with
    | .ok queue => some (r, queue)
    | .error _ => none
  | _, _ => none

/-- How an operation begins a build: what it leaves first, and what it queues. -/
inductive Begun (r : Renderer) : Operation → Renderer → List Queued → Prop
  | timeline {timeline : TimelineConfig} {queue : List Queued} {grid : ParticleGrid Float32}
      (hqueue : Build.queue timeline r.registry = .ok queue)
      (hgrid : ParticleGrid.sample r.picture timeline = .ok grid) :
      Begun r (.setTimeline timeline)
        { r with
          clock := r.clock.setPeriod timeline.duration
          feedback := (r.feedback.setMode r.device timeline.accumulation).1
          device := (r.feedback.setMode r.device timeline.accumulation).2
          timeline
          grid }
        queue
  | picture {picture : Option Picture} {queue : List Queued} {grid : ParticleGrid Float32}
      (hqueue : Build.queue r.timeline r.registry = .ok queue)
      (hgrid : ParticleGrid.sample picture r.timeline = .ok grid) :
      Begun r (.setPicture picture) { r with picture, grid } queue
  | rebuild {queue : List Queued} (hqueue : Build.queue r.timeline r.registry = .ok queue) :
      Begun r .rebuild r queue

theorem begun_of_eq_some {op : Operation} {r x : Renderer} {queue : List Queued}
    (h : op.begun? r = some (x, queue)) : Begun r op x queue := by
  cases op with
  | setTimeline timeline =>
    simp only [begun?] at h
    split at h
    · rename_i queue' grid hqueue hgrid
      obtain ⟨rfl, rfl⟩ := Prod.mk.inj (Option.some.inj h)
      exact .timeline hqueue hgrid
    · simp at h
  | setPicture picture =>
    simp only [begun?] at h
    split at h
    · rename_i queue' grid hqueue hgrid
      obtain ⟨rfl, rfl⟩ := Prod.mk.inj (Option.some.inj h)
      exact .picture hqueue hgrid
    · simp at h
  | rebuild =>
    simp only [begun?] at h
    split at h
    · rename_i queue' hqueue
      obtain ⟨rfl, rfl⟩ := Prod.mk.inj (Option.some.inj h)
      exact .rebuild hqueue
    · simp at h
  | _ => simp [begun?] at h

theorem perform_of_begun {op : Operation} {r x : Renderer} {queue : List Queued}
    (h : op.begun? r = some (x, queue)) : op.perform r = x.startBuild queue := by
  have hmap : ∀ e : Except Crash Renderer,
      (orUnchanged r (e.map .ok : Except Crash (Except ConfigError Renderer))) = e := by
    intro e
    cases e <;> rfl
  cases begun_of_eq_some h with
  | timeline hqueue hgrid =>
    simp only [perform, Renderer.setTimeline, hqueue, hgrid, bind, Except.bind, pure, Except.pure,
      hmap]
  | picture hqueue hgrid =>
    simp only [perform, Renderer.setPicture, hqueue, hgrid, bind, Except.bind, pure, Except.pure,
      hmap]
  | rebuild hqueue => simp only [perform, Renderer.rebuild, hqueue, hmap]

theorem perform_of_refused {op : Operation} {r : Renderer} (hstarts : op.starts = true)
    (h : op.begun? r = none) : op.perform r = .ok r := by
  cases op with
  | setTimeline timeline =>
    simp only [begun?] at h
    cases hqueue : Build.queue timeline r.registry with
    | error e => simp only [perform, Renderer.setTimeline, hqueue, bind, Except.bind, orUnchanged]
    | ok queue =>
      cases hgrid : (ParticleGrid.sample r.picture timeline : Except _ (ParticleGrid Float32)) with
      | error e =>
        simp only [perform, Renderer.setTimeline, hqueue, hgrid, bind, Except.bind, orUnchanged]
      | ok grid => simp [hqueue, hgrid] at h
  | setPicture picture =>
    simp only [begun?] at h
    cases hqueue : Build.queue r.timeline r.registry with
    | error e => simp only [perform, Renderer.setPicture, hqueue, bind, Except.bind, orUnchanged]
    | ok queue =>
      cases hgrid : (ParticleGrid.sample picture r.timeline : Except _ (ParticleGrid Float32)) with
      | error e =>
        simp only [perform, Renderer.setPicture, hqueue, hgrid, bind, Except.bind, orUnchanged]
      | ok grid => simp [hqueue, hgrid] at h
  | rebuild =>
    simp only [begun?] at h
    cases hqueue : Build.queue r.timeline r.registry with
    | error e => simp only [perform, Renderer.rebuild, hqueue, orUnchanged]
    | ok queue => simp [hqueue] at h
  | _ => simp [starts] at hstarts

/-- What an operation leaves behind when it comes to an end. -/
inductive Performed : Operation → Renderer → Renderer → Prop
  | refused {op : Operation} {r : Renderer} (hstarts : op.starts = true)
      (h : op.begun? r = none) : Performed op r r
  | built {op : Operation} {r x r' : Renderer} {queue : List Queued}
      (hbegun : op.begun? r = some (x, queue)) (hpolled : (x.enlist queue).BuildsPolled r') :
      Performed op r r'
  | resized (width height : UInt32) (r : Renderer) :
      Performed (.resize width height) r (r.resizeBuffers width height).1
  | framed {now : Nat} {r r' : Renderer} (hpolled : (r.ticked now).BuildsPolled r') :
      Performed (.frame now) r r'.shown
  | idle {r : Renderer} (h : r.pending = none) : Performed .finishBuild r r
  | finished {r r' : Renderer} {p : PendingBuild} {left : Option PendingBuild} {fit : Bool}
      (h : r.pending = some p)
      (hsettled : Renderer.Settled true { r with pending := none } p r' left fit) :
      Performed .finishBuild r { r' with pending := left }
  | reported (error : EffectError) (r : Renderer) :
      Performed (.report error) r { r with reports := r.reports.report error }
  | clockChanged (change : Clock Float → Clock Float) (r : Renderer) :
      Performed (.changeClock change) r { r with clock := change r.clock }
  | effectsChanged (registry : Registry) (r : Renderer) :
      Performed (.changeEffects registry) r { r with registry }

/-- How an operation can crash whose builds are sound: something cannot be
counted, or a build is waited for that never ends. -/
def CrashesFor (op : Operation) (r : Renderer) (fault : Fault) : Prop :=
  fault = .overflow ∨
    op = .finishBuild ∧ fault = .endless ∧
      ∃ p, r.pending = some p ∧ p.build.finish.outcome = .crashed .endless

/-- The queue of a build that begins is that of the timeline then on show. -/
theorem queue_of_begun {op : Operation} {r x : Renderer} {queue : List Queued}
    (h : op.begun? r = some (x, queue)) :
    Build.queue x.timeline r.registry = .ok queue ∧
      x = { r with
        clock := x.clock, feedback := x.feedback, device := x.device, timeline := x.timeline,
        picture := x.picture, grid := x.grid } := by
  cases begun_of_eq_some h with
  | timeline hqueue hgrid => exact ⟨hqueue, rfl⟩
  | picture hqueue hgrid => exact ⟨hqueue, rfl⟩
  | rebuild hqueue => exact ⟨hqueue, rfl⟩

end Operation

/-- A renderer whose effects do not fault and whose builds are sound. -/
structure Renderer.Sound (r : Renderer) : Prop where
  registry : r.registry.Faultless
  builds : ∀ p ∈ r.builds, p.build.Sound

/-- A build that begins is sound. -/
theorem Renderer.Sound.enlist {op : Operation} {r x : Renderer} {queue : List Queued}
    (h : r.Sound) (hbegun : op.begun? r = some (x, queue)) : (x.enlist queue).Sound := by
  obtain ⟨hqueue, hx⟩ := Operation.queue_of_begun hbegun
  have hregistry : x.registry = r.registry := by rw [hx]
  have hbuilds : x.builds = r.builds := by
    rw [hx]
    rfl
  refine ⟨hregistry ▸ h.registry, fun p hp => ?_⟩
  simp only [Renderer.builds, Renderer.enlist, Option.toList_some, List.mem_append,
    List.mem_singleton] at hp
  rcases hp with hp | rfl
  · exact h.builds p (hbuilds ▸ List.mem_append.2 hp)
  · exact Build.registers_start fun e he => Build.forall_enrol hqueue h.registry he

namespace Operation

/-- **What an operation does** to a sound renderer. -/
theorem perform_of_sound (op : Operation) {r : Renderer} (hsound : r.Sound) :
    (∃ r', op.perform r = .ok r' ∧ Performed op r r') ∨
      ∃ crash, op.perform r = .error crash ∧ op.CrashesFor r crash.fault := by
  -- The three operations that start a build differ in what they leave before it begins.
  have hchange : op.starts = true → ∃ r', op.perform r = .ok r' ∧ Performed op r r' := by
    intro hstarts
    cases hbegun : op.begun? r with
    | none => exact ⟨r, perform_of_refused hstarts hbegun, .refused hstarts hbegun⟩
    | some begun =>
      obtain ⟨x, queue⟩ := begun
      obtain ⟨r', fit, hpoll, hpolled⟩ :=
        Renderer.pollBuilds_of_sound (x.enlist queue) (hsound.enlist hbegun).builds
      refine ⟨r', ?_, .built hbegun hpolled⟩
      rw [perform_of_begun hbegun, Renderer.startBuild_eq, hpoll]
      rfl
  cases op with
  | setTimeline timeline => exact .inl (hchange rfl)
  | setPicture picture => exact .inl (hchange rfl)
  | rebuild => exact .inl (hchange rfl)
  | resize width height =>
    simp only [perform, Renderer.resize]
    cases hfault : (r.resizeBuffers width height).2.bind AllocationError.fault? with
    | none =>
      refine .inl ⟨(r.resizeBuffers width height).1, ?_, .resized width height r⟩
      simp only [Except.map]
    | some fault =>
      refine .inr ⟨⟨fault, (r.resizeBuffers width height).1.journal⟩, ?_, .inl ?_⟩
      · simp only [Except.map]
      · obtain ⟨e, -, he⟩ := Option.bind_eq_some_iff.1 hfault
        exact AllocationError.eq_overflow he
  | frame now =>
    simp only [perform, Renderer.frame_eq]
    cases hfault : (r.clock.tick now).2.2 with
    | some fault => exact .inr ⟨_, rfl, .inl (Clock.tick_fault hfault)⟩
    | none =>
      obtain ⟨r', fit, hpoll, hpolled⟩ :=
        Renderer.pollBuilds_of_sound (r.ticked now) hsound.builds
      refine .inl ⟨r'.shown, ?_, .framed hpolled⟩
      simp only [hpoll, Except.map]
  | finishBuild =>
    simp only [perform, Renderer.finishBuild]
    cases hpending : r.pending with
    | none => exact .inl ⟨r, rfl, .idle hpending⟩
    | some p =>
      have hbuild := hsound.builds p (List.mem_append_right _ (by simp [hpending]))
      -- Waiting for the build under way is the one way to wait for ever.
      rcases Renderer.settle_of_sound true { r with pending := none } hbuild with
        ⟨r', left, fit, hsettle, hsettled⟩ | ⟨-, houtcome, journal, hsettle⟩
      · refine .inl ⟨{ r' with pending := left }, ?_, .finished hpending hsettled⟩
        simp only [Build.finish, hsettle, bind, Except.bind]
        rfl
      · refine .inr ⟨⟨.endless, journal⟩, ?_, .inr ⟨rfl, rfl, p, hpending, houtcome⟩⟩
        simp only [Build.finish, hsettle, bind, Except.bind]
        rfl
  | report error => exact .inl ⟨_, rfl, .reported error r⟩
  | changeClock change => exact .inl ⟨_, rfl, .clockChanged change r⟩
  | changeEffects registry => exact .inl ⟨_, rfl, .effectsChanged registry r⟩

end Operation

/-! ## Soundness along a history -/

theorem Renderer.BuildsPolled.sound {r r' : Renderer} (h : r.BuildsPolled r') (hsound : r.Sound) :
    r'.Sound := by
  obtain ⟨hretired, hpending⟩ := h.later
  refine ⟨by rw [h.frame]; exact hsound.registry, fun q hq => ?_⟩
  rcases List.mem_append.1 hq with hq | hq
  · obtain ⟨p, hp, hlater⟩ := hretired q hq
    exact hlater.left.sound (hsound.builds p (List.mem_append_left _ hp))
  · obtain ⟨p, hp, hlater⟩ := hpending q hq
    exact hlater.left.sound (hsound.builds p (List.mem_append_right _ hp))

namespace Operation

/-- The effects that an operation brings in do not fault. -/
def Faultless : Operation → Prop
  | changeEffects registry => registry.Faultless
  | _ => True

theorem Performed.sound {op : Operation} {r r' : Renderer} (h : Performed op r r')
    (hsound : r.Sound) (hop : op.Faultless) : r'.Sound := by
  cases h with
  | refused hstarts h => exact hsound
  | built hbegun hpolled => exact hpolled.sound (hsound.enlist hbegun)
  | resized width height r =>
    rw [Renderer.resizeBuffers_eq]
    exact ⟨hsound.registry, hsound.builds⟩
  | @framed now r r' hpolled =>
    have hticked : (r.ticked now).Sound := ⟨hsound.registry, hsound.builds⟩
    have hlater := hpolled.sound hticked
    rw [Renderer.shown_eq]
    exact ⟨hlater.registry, hlater.builds⟩
  | idle h => exact hsound
  | @finished r r' p left fit h hsettled =>
    have hbuild := hsound.builds p (List.mem_append_right _ (by simp [h]))
    have hleft := hsettled.left_eq_none hbuild
    have hframe := hsettled.frame
    refine ⟨by rw [hframe]; exact hsound.registry, fun q hq => hsound.builds q ?_⟩
    rw [hleft, hframe] at hq
    exact List.mem_append_left _ (by simpa [Renderer.builds] using hq)
  | reported error r => exact ⟨hsound.registry, hsound.builds⟩
  | clockChanged change r => exact ⟨hsound.registry, hsound.builds⟩
  | effectsChanged registry r => exact ⟨hop, hsound.builds⟩

/-- **A history goes through**, or comes to an operation that crashes for a
reason that effects have no part in. -/
theorem run_of_sound {ops : List Operation} {r : Renderer} (hsound : r.Sound)
    (hops : ∀ op ∈ ops, op.Faultless) :
    (∃ r', run ops r = .ok r' ∧ r'.Sound) ∨
      ∃ earlier op later r' crash, ops = earlier ++ op :: later ∧ run earlier r = .ok r' ∧
        run ops r = .error crash ∧ op.CrashesFor r' crash.fault := by
  induction ops generalizing r with
  | nil => exact .inl ⟨r, rfl, hsound⟩
  | cons op ops ih =>
    rcases perform_of_sound op hsound with ⟨r₁, hperform, hperformed⟩ | ⟨crash, hperform, hfor⟩
    · have hsound₁ := hperformed.sound hsound (hops op List.mem_cons_self)
      rcases ih hsound₁ fun op' hop' => hops op' (List.mem_cons_of_mem _ hop') with
        ⟨r', hrun, hsound'⟩ | ⟨earlier, op', later, r', crash, hops', hearlier, hrun, hfor⟩
      · exact .inl ⟨r', by simpa only [run, hperform] using hrun, hsound'⟩
      · refine .inr ⟨op :: earlier, op', later, r', crash, by rw [hops']; rfl, ?_, ?_, hfor⟩
        · simpa only [run, hperform] using hearlier
        · simpa only [run, hperform] using hrun
    · exact .inr ⟨[], op, ops, r, crash, rfl, rfl, by simp only [run, hperform], hfor⟩

end Operation

/-! ## The beginning -/

namespace Renderer

variable {device : Device} {registry : Registry} {timeline : TimelineConfig} {r : Renderer}

/-- What there is before the first build. -/
theorem prepare_eq_ok (h : prepare device registry timeline = .ok r) :
    timeline.validate = .ok () ∧
      ParticleGrid.gradient timeline.gridWidth timeline.gridHeight = .ok r.grid ∧
      r = { device := r.device, registry, timeline, grid := r.grid,
            clock := .ofPeriod timeline.duration, feedback := r.feedback,
            particles := r.particles } := by
  unfold prepare at h
  cases hvalid : timeline.validate with
  | error e => simp [hvalid, Except.mapError, bind, Except.bind] at h
  | ok u =>
    cases hgrid : (ParticleGrid.gradient timeline.gridWidth timeline.gridHeight :
        Except ConfigError (ParticleGrid Float32)) with
    | error e => simp [hvalid, hgrid, Except.mapError, bind, Except.bind] at h
    | ok grid =>
      cases hfeedback : Feedback.create device timeline.accumulation with
      | error e => simp [hvalid, hgrid, hfeedback, Except.mapError, bind, Except.bind] at h
      | ok made =>
        cases hparticles : made.1.create "particles" 1 1 with
        | error e =>
          simp [hvalid, hgrid, hfeedback, hparticles, Except.mapError, bind, Except.bind] at h
        | ok last =>
          simp only [hvalid, hgrid, hfeedback, hparticles, Except.mapError, bind, Except.bind, pure,
            Except.pure, Except.ok.injEq] at h
          subst h
          exact ⟨rfl, rfl, rfl⟩

/-- A renderer is created by preparing it and building its timeline. -/
theorem create_eq_ok (h : create device registry timeline = .ok (.ok r)) :
    ∃ p queue, prepare device registry timeline = .ok p ∧
      Operation.rebuild.begun? p = some (p, queue) ∧ Operation.perform .rebuild p = .ok r := by
  unfold create at h
  cases hprepare : prepare device registry timeline with
  | error e =>
    simp only [hprepare] at h
    cases hfault : e.fault? <;> simp [hfault] at h
  | ok p =>
    simp only [hprepare] at h
    cases hrebuild : p.rebuild with
    | error crash => simp [hrebuild, Except.map] at h
    | ok result =>
      cases result with
      | error e => simp [hrebuild, Except.map, Except.mapError] at h
      | ok r' =>
        simp only [hrebuild, Except.map, Except.mapError, Except.ok.injEq] at h
        subst h
        cases hqueue : Build.queue p.timeline p.registry with
        | error e => simp [rebuild, hqueue] at hrebuild
        | ok queue =>
          refine ⟨p, queue, rfl, by simp only [Operation.begun?, hqueue], ?_⟩
          simp only [Operation.perform, hrebuild, Operation.orUnchanged]

/-- A creation and a history that go through when they are computed. -/
theorem exists_of_computed {ops : List Operation} {holds : Renderer → Renderer → Bool}
    (h : ((create device registry timeline).toOption.bind Except.toOption).any (fun r =>
      (Operation.run ops r).toOption.any (holds r)) = true) :
    ∃ r r', create device registry timeline = .ok (.ok r) ∧ Operation.run ops r = .ok r' ∧
      holds r r' = true := by
  cases hcreate : create device registry timeline with
  | error crash => simp [hcreate, Except.toOption] at h
  | ok made =>
    cases made with
    | error e => simp [hcreate, Except.toOption] at h
    | ok r =>
      cases hrun : Operation.run ops r with
      | error crash => simp [hcreate, hrun, Except.toOption] at h
      | ok r' =>
        simp only [hcreate, hrun, Except.toOption, Option.bind_some, Option.any_some] at h
        exact ⟨r, r', rfl, hrun, h⟩

end Renderer

/-! ## A timeline whose builds wait -/

/-- A registry with an effect that waits, and puts down one hook before and
one after. -/
def Registry.waiting : Registry where
  effects := [{
    id := "Waiting"
    displayName := "Waiting"
    fields := []
    register := fun _ =>
      { moves := [.act (.onTeardown "early"), .wait, .act (.onTeardown "late")] } }]

/-- A timeline with one instance of it. -/
def TimelineConfig.waiting : TimelineConfig where
  tracks := [[{ effectId := "Waiting", timeBegin := 0, timeEnd := 1000 }]]
  gridWidth := 1
  gridHeight := 1

theorem Registry.faultless_waiting : Registry.waiting.Faultless := by
  intro e he q
  obtain rfl := List.mem_singleton.1 he
  have happends : ∀ a ∈ [Action.onTeardown "early", .onTeardown "late"], a.Appends := by decide
  exact Registration.faultless_of_appends happends ⟨List.nodup_nil, List.nodup_nil⟩

end ParticleTimeline
