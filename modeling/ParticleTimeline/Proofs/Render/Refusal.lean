import ParticleTimeline.Proofs.Particle.Grid
import ParticleTimeline.Proofs.Render.Operation
import ParticleTimeline.Proofs.Timeline.Config
/-!
# Changes that are refused

A change of the timeline or the picture, or a rebuild, goes through several
steps, and more than one of them can be refused. `Change.steps` makes them one
after the other on the renderer in place, where nothing takes back what an
earlier step has done; `Change.run_steps` says that this is what the renderer
does. No step that can be refused comes after one that changes something, so
a refusal leaves everything as it was (`Change.refused_changes_nothing`), and
what can be wrong with a change is one of three things
(`Change.Objectionable`).
-/

namespace ParticleTimeline

/-! ## When a build can start -/

theorem Registry.get_ok_iff {r : Registry} {id : String} :
    (∃ e, r.get id = .ok e) ↔ id ∈ r.ids := by
  unfold get ids
  cases hfind : r.effects.find? (·.id = id) with
  | some e =>
    have hid : e.id = id := by simpa using List.find?_some hfind
    have hmem := List.mem_of_find?_eq_some hfind
    exact iff_of_true ⟨e, rfl⟩ (List.mem_map.2 ⟨e, hmem, hid⟩)
  | none =>
    refine iff_of_false (by simp) fun hid => ?_
    obtain ⟨e, he, rfl⟩ := List.mem_map.1 hid
    exact List.find?_eq_none.1 hfind e he (by simp)

/-- A build can start exactly when the timeline is valid and names no effect
that the registry lacks. -/
theorem Build.queue_ok_iff {c : TimelineConfig} {r : Registry} :
    (∃ queue, Build.queue c r = .ok queue) ↔
      c.validate = .ok () ∧ ∀ i ∈ c.instances, i.effectId ∈ r.ids := by
  have hfound : ∀ is : List EffectInstance, (∀ i ∈ is, i.effectId ∈ r.ids) →
      ∃ queue : List Queued, queue.map Queued.subject = is ∧
        ∀ q ∈ queue, r.get q.subject.effectId = .ok q.effect := by
    intro is
    induction is with
    | nil => exact fun _ => ⟨[], rfl, nofun⟩
    | cons i is ih =>
      intro hids
      obtain ⟨effect, heffect⟩ := Registry.get_ok_iff.2 (hids i List.mem_cons_self)
      obtain ⟨queue, hsubjects, hqueue⟩ := ih fun j hj => hids j (List.mem_cons_of_mem i hj)
      exact ⟨⟨i, effect⟩ :: queue, by rw [List.map_cons, hsubjects],
        List.forall_mem_cons.2 ⟨heffect, hqueue⟩⟩
  constructor
  · rintro ⟨queue, h⟩
    obtain ⟨hvalid, hsubjects, hqueue⟩ := queue_eq_ok.1 h
    refine ⟨hvalid, fun i hi => ?_⟩
    obtain ⟨q, hq, rfl⟩ := List.mem_map.1 (hsubjects ▸ hi)
    exact Registry.get_ok_iff.1 ⟨_, hqueue q hq⟩
  · rintro ⟨hvalid, hids⟩
    obtain ⟨queue, hsubjects, hqueue⟩ := hfound c.instances hids
    exact ⟨queue, queue_eq_ok.2 ⟨hvalid, hsubjects, hqueue⟩⟩

/-- The grid of a timeline that a build can start from fails for the picture
alone. -/
theorem Build.sample_ok_iff_of_queue {c : TimelineConfig} {r : Registry} {queue : List Queued}
    {p : Option Picture} (h : Build.queue c r = .ok queue) :
    (∃ grid : ParticleGrid Float32, ParticleGrid.sample p c = .ok grid) ↔
      ∀ q, p = some q → q.isEmpty = false := by
  obtain ⟨hvalid, -⟩ := queue_eq_ok.1 h
  have hcount := (TimelineConfig.validate_eq_ok.1 hvalid).1
  rw [ParticleGrid.sample_ok_iff]
  exact and_iff_left hcount

/-! ## Steps in place -/

/-- Steps on a renderer in place. A refusal ends them, and leaves what the
steps before it have made of the renderer. -/
abbrev Steps (α : Type) : Type := ExceptT ConfigError (StateT Renderer (Except Crash)) α

namespace Steps

variable {α β : Type}

/-- What some steps come to, and the renderer that they leave. -/
def runOn (steps : Steps α) (r : Renderer) : Except Crash (Except ConfigError α × Renderer) :=
  (ExceptT.run steps).run r

theorem runOn_bind (steps : Steps α) (next : α → Steps β) (r : Renderer) :
    (steps >>= next).runOn r =
      match steps.runOn r with
      | .ok (.ok a, r') => (next a).runOn r'
      | .ok (.error e, r') => .ok (.error e, r')
      | .error crash => .error crash := by
  unfold runOn
  rw [ExceptT.run_bind, StateT.run_bind]
  cases (ExceptT.run steps).run r with
  | error crash => rfl
  | ok left =>
    obtain ⟨a | e, r'⟩ := left <;> rfl

theorem runOn_get (r : Renderer) : (get : Steps Renderer).runOn r = .ok (.ok r, r) := rfl

theorem runOn_modify (f : Renderer → Renderer) (r : Renderer) :
    (modify f : Steps PUnit).runOn r = .ok (.ok (), f r) := rfl

/-- A step that can be refused changes nothing itself. -/
theorem runOn_ask (e : Except ConfigError α) (r : Renderer) :
    (liftM e : Steps α).runOn r = .ok (e, r) := rfl

theorem runOn_crash (e : Except Crash α) (r : Renderer) :
    (liftM e : Steps α).runOn r = e.map fun a => (.ok a, r) := by
  cases e <;> rfl

/-- The last step of every change. -/
def startBuild (queue : List Queued) : Steps Unit := do
  set (← (← get).startBuild queue)

/-- It cannot be refused any more. -/
theorem runOn_startBuild (queue : List Queued) (r : Renderer) :
    (startBuild queue).runOn r = (r.startBuild queue).map fun r' => (.ok (), r') := by
  unfold startBuild
  rw [runOn_bind, runOn_get]
  dsimp only
  rw [runOn_bind, runOn_crash]
  cases r.startBuild queue <;> rfl

end Steps

/-! ## Changes -/

/-- What can be asked of a renderer and be refused for its configuration. -/
inductive Change where
  | timeline (timeline : TimelineConfig)
  | picture (picture : Option Picture)
  | rebuild

namespace Change

def operation : Change → Operation
  | timeline c => .setTimeline c
  | picture p => .setPicture p
  | rebuild => .rebuild

/-- A change as the renderer makes it. -/
def perform : Change → Renderer → Except Crash (Except ConfigError Renderer)
  | timeline c, r => r.setTimeline c
  | picture p, r => r.setPicture p
  | rebuild, r => r.rebuild

/-- A change, one step after the other. -/
def steps : Change → Steps Unit
  | timeline c => do
    let queue ← Build.queue c (← get).registry
    let grid ← ParticleGrid.sample (← get).picture c
    modify fun r => { r with clock := r.clock.setPeriod c.duration }
    modify fun r =>
      let (feedback, device) := r.feedback.setMode r.device c.accumulation
      { r with feedback, device }
    modify fun r => { r with timeline := c }
    modify fun r => { r with grid }
    Steps.startBuild queue
  | picture p => do
    let queue ← Build.queue (← get).timeline (← get).registry
    let grid ← ParticleGrid.sample p (← get).timeline
    modify fun r => { r with picture := p }
    modify fun r => { r with grid }
    Steps.startBuild queue
  | rebuild => do
    let queue ← Build.queue (← get).timeline (← get).registry
    Steps.startBuild queue

variable {change : Change} {r : Renderer}

/-- What the outcome of a change is in place. -/
def inPlace (r : Renderer) : Except Crash (Except ConfigError Renderer) →
    Except Crash (Except ConfigError Unit × Renderer)
  | .ok (.ok r') => .ok (.ok (), r')
  | .ok (.error e) => .ok (.error e, r)
  | .error crash => .error crash

/-- **The steps are what the renderer does**, and what they leave after a
refusal is the renderer itself. -/
theorem run_steps (change : Change) (r : Renderer) :
    change.steps.runOn r = inPlace r (change.perform r) := by
  have hstart : ∀ (queue : List Queued) (x : Renderer),
      (Steps.startBuild queue).runOn x = inPlace r ((x.startBuild queue).map .ok) := by
    intro queue x
    rw [Steps.runOn_startBuild]
    cases x.startBuild queue <;> rfl
  cases change with
  | timeline c =>
    simp only [steps, perform, Renderer.setTimeline, Steps.runOn_bind, Steps.runOn_get,
      Steps.runOn_ask, Steps.runOn_modify, hstart]
    cases hqueue : Build.queue c r.registry with
    | error e => rfl
    | ok queue =>
      cases hgrid : (ParticleGrid.sample r.picture c : Except _ (ParticleGrid Float32)) with
      | error e => simp only [hgrid, bind, Except.bind, inPlace]
      | ok grid => simp only [hgrid, bind, Except.bind, pure, Except.pure]
  | picture p =>
    simp only [steps, perform, Renderer.setPicture, Steps.runOn_bind, Steps.runOn_get,
      Steps.runOn_ask, Steps.runOn_modify, hstart]
    cases hqueue : Build.queue r.timeline r.registry with
    | error e => rfl
    | ok queue =>
      cases hgrid : (ParticleGrid.sample p r.timeline : Except _ (ParticleGrid Float32)) with
      | error e => simp only [hgrid, bind, Except.bind, inPlace]
      | ok grid => simp only [hgrid, bind, Except.bind, pure, Except.pure]
  | rebuild =>
    simp only [steps, perform, Renderer.rebuild, Steps.runOn_bind, Steps.runOn_get,
      Steps.runOn_ask, hstart]
    cases hqueue : Build.queue r.timeline r.registry with
    | error e => rfl
    | ok queue => rfl

/-- An operation leaves what the steps of the change leave. -/
theorem perform_operation (change : Change) (r : Renderer) :
    change.operation.perform r = (change.steps.runOn r).map Prod.snd := by
  have hunchanged : ∀ outcome : Except Crash (Except ConfigError Renderer),
      Operation.orUnchanged r outcome = (inPlace r outcome).map Prod.snd := by
    rintro (crash | (e | r')) <;> rfl
  rw [run_steps, ← hunchanged]
  cases change <;> rfl

/-! ## What can be wrong with a change -/

/-- The timeline that would be on show after a change. -/
def target (r : Renderer) : Change → TimelineConfig
  | timeline c => c
  | picture _ | rebuild => r.timeline

/-- The picture that a change lays the particles onto, if there is one. -/
def sampled (r : Renderer) : Change → Option Picture
  | timeline _ => r.picture
  | picture p => p
  | rebuild => none

/-- Something is wrong with a change of a renderer. -/
inductive Objectionable (r : Renderer) (change : Change) : Prop
  | invalid (h : (change.target r).validate ≠ .ok ())
  | unknown {i : EffectInstance} (hi : i ∈ (change.target r).instances)
      (h : i.effectId ∉ r.registry.ids)
  | empty {p : Picture} (hp : change.sampled r = some p) (h : p.width = 0 ∨ p.height = 0)

/-- A change that a build can follow is one with nothing wrong. -/
theorem not_objectionable_iff :
    ¬ Objectionable r change ↔
      (∃ queue, Build.queue (change.target r) r.registry = .ok queue) ∧
        ∀ p, change.sampled r = some p → p.isEmpty = false := by
  have hempty : ∀ p : Picture, p.isEmpty = false ↔ ¬ (p.width = 0 ∨ p.height = 0) := by
    intro p
    simp [Picture.isEmpty]
  rw [Build.queue_ok_iff]
  constructor
  · intro hnone
    exact ⟨⟨Classical.byContradiction fun h => hnone (.invalid h),
        fun i hi => Classical.byContradiction fun h => hnone (.unknown hi h)⟩,
      fun p hp => (hempty p).2 fun h => hnone (.empty hp h)⟩
  · rintro ⟨⟨hvalid, hids⟩, hpictures⟩ (h | ⟨hi, h⟩ | ⟨hp, h⟩)
    · exact h hvalid
    · exact h (hids _ hi)
    · exact (hempty _).1 (hpictures _ hp) h

/-- A change is refused for what is wrong with it, and for nothing else. -/
theorem refused_iff : (∃ e, change.perform r = .ok (.error e)) ↔ Objectionable r change := by
  -- Once a build has begun there is a renderer, unless the renderer crashes.
  have hbegun : ∀ outcome : Except Crash Renderer, ¬ ∃ e : ConfigError,
      (outcome.map .ok : Except Crash (Except ConfigError Renderer)) = .ok (.error e) := by
    rintro (crash | r') ⟨e, h⟩ <;> cases h
  have hnone : ∀ {α : Type} (e : ConfigError), ¬ ∃ a : α, Except.error e = .ok a := by
    rintro α e ⟨a, h⟩
    cases h
  rw [← Classical.not_not (a := Objectionable r change), not_objectionable_iff]
  cases change with
  | timeline c =>
    simp only [perform, Renderer.setTimeline, target, sampled]
    cases hqueue : Build.queue c r.registry with
    | error e => exact iff_of_true ⟨e, rfl⟩ fun h => hnone e h.1
    | ok queue =>
      have hsample := Build.sample_ok_iff_of_queue (p := r.picture) hqueue
      cases hgrid : (ParticleGrid.sample r.picture c : Except _ (ParticleGrid Float32)) with
      | error e => exact iff_of_true ⟨e, rfl⟩ fun h => hnone e (hgrid ▸ hsample.2 h.2)
      | ok grid =>
        exact iff_of_false (hbegun _) fun h => h ⟨⟨queue, rfl⟩, hsample.1 ⟨grid, hgrid⟩⟩
  | picture p =>
    simp only [perform, Renderer.setPicture, target, sampled]
    cases hqueue : Build.queue r.timeline r.registry with
    | error e => exact iff_of_true ⟨e, rfl⟩ fun h => hnone e h.1
    | ok queue =>
      have hsample := Build.sample_ok_iff_of_queue (p := p) hqueue
      cases hgrid : (ParticleGrid.sample p r.timeline : Except _ (ParticleGrid Float32)) with
      | error e => exact iff_of_true ⟨e, rfl⟩ fun h => hnone e (hgrid ▸ hsample.2 h.2)
      | ok grid =>
        exact iff_of_false (hbegun _) fun h => h ⟨⟨queue, rfl⟩, hsample.1 ⟨grid, hgrid⟩⟩
  | rebuild =>
    simp only [perform, Renderer.rebuild, target, sampled]
    cases hqueue : Build.queue r.timeline r.registry with
    | error e => exact iff_of_true ⟨e, rfl⟩ fun h => hnone e h.1
    | ok queue => exact iff_of_false (hbegun _) fun h => h ⟨⟨queue, rfl⟩, by simp⟩

/-! ## Refusals -/

/-- **A change is refused exactly when something is wrong with it**, whatever
the renderer has been through. The renderer that its steps leave then is the
one they began with, and every history goes on as if the change had not been
asked for. -/
theorem refused_changes_nothing (change : Change) (r : Renderer) :
    ((∃ e r', change.steps.runOn r = .ok (.error e, r')) ↔ Objectionable r change) ∧
      ∀ e r', change.steps.runOn r = .ok (.error e, r') →
        r' = r ∧ change.perform r = .ok (.error e) ∧
          ∀ earlier later r₀, Operation.run earlier r₀ = .ok r →
            Operation.run (earlier ++ change.operation :: later) r₀
              = Operation.run (earlier ++ later) r₀ := by
  have hrefused : ∀ e r', change.steps.runOn r = .ok (.error e, r') →
      r' = r ∧ change.perform r = .ok (.error e) := by
    intro e r' h
    rw [run_steps] at h
    cases houtcome : change.perform r with
    | error crash => simp [houtcome, inPlace] at h
    | ok result =>
      cases result with
      | ok x => simp [houtcome, inPlace] at h
      | error e' =>
        simp only [houtcome, inPlace, Except.ok.injEq, Prod.mk.injEq, Except.error.injEq] at h
        exact ⟨h.2.symm, by rw [h.1]⟩
  refine ⟨?_, fun e r' h => ?_⟩
  · rw [← refused_iff]
    constructor
    · rintro ⟨e, r', h⟩
      exact ⟨e, (hrefused e r' h).2⟩
    · rintro ⟨e, h⟩
      exact ⟨e, r, by rw [run_steps, h, inPlace]⟩
  · obtain ⟨hsame, hperform⟩ := hrefused e r' h
    refine ⟨hsame, hperform, fun earlier later r₀ hearlier => ?_⟩
    have hoperation : change.operation.perform r = .ok r := by
      rw [perform_operation, h, hsame]
      rfl
    rw [Operation.run_append, Operation.run_append, hearlier]
    simp only [Operation.run, hoperation]

/-- A command is on show and the next build is waiting when a timeline with an
effect that is not there and a picture without pixels are refused. -/
theorem refused_changes_nothing_waiting :
    let missing : EffectInstance := { effectId := "Missing", timeBegin := 0, timeEnd := 1000 }
    let nothing : Picture := .ofFn 0 1 fun _ => ⟨0, 0, 0, 0⟩
    ∃ r₀ r, Renderer.create {} .waiting .waiting = .ok (.ok r₀) ∧
      Operation.run [.frame 0, .rebuild] r₀ = .ok r ∧
      (r.pending.isSome && r.slot.active.isSome) = true ∧
      ∀ change ∈ [timeline { tracks := [[missing]] }, picture (some nothing)],
        ∃ e, change.steps.runOn r = .ok (.error e, r) ∧
          Operation.run ([.frame 0, .rebuild] ++ change.operation :: [.frame 16]) r₀
            = Operation.run ([.frame 0, .rebuild] ++ [.frame 16]) r₀ := by
  intro missing nothing
  obtain ⟨r₀, r, hcreate, hrun, hholds⟩ : ∃ r₀ r,
      Renderer.create {} .waiting .waiting = .ok (.ok r₀) ∧
      Operation.run [.frame 0, .rebuild] r₀ = .ok r ∧
      (r.pending.isSome && r.slot.active.isSome && r.registry.ids == ["Waiting"]) = true :=
    Renderer.exists_of_computed (by decide +kernel)
  obtain ⟨hbuilds, hids⟩ := Bool.and_eq_true_iff.1 hholds
  refine ⟨r₀, r, hcreate, hrun, hbuilds, fun change hchange => ?_⟩
  have hobjection : Objectionable r change := by
    simp only [List.mem_cons, List.not_mem_nil, or_false] at hchange
    rcases hchange with rfl | rfl
    · refine .unknown (i := missing) List.mem_cons_self ?_
      rw [beq_iff_eq.1 hids]
      decide
    · exact .empty rfl (.inl rfl)
  obtain ⟨hiff, hrefusal⟩ := refused_changes_nothing change r
  obtain ⟨e, r', hsteps⟩ := hiff.2 hobjection
  obtain ⟨rfl, -, hhistory⟩ := hrefusal e r' hsteps
  exact ⟨e, hsteps, hhistory _ _ r₀ hrun⟩

end Change

end ParticleTimeline
