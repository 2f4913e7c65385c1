import ParticleTimeline.Proofs.Number.Order
import ParticleTimeline.Timeline.Config
/-!
# Valid timelines

A timeline is valid when its grid can be had and every instance is valid by
itself (`TimelineConfig.validate_eq_ok`), so the order of the checks only
matters for which error is reported. Instances can stand in for others
without a valid timeline becoming invalid (`validate_withStandIns`).
-/

namespace ParticleTimeline

namespace EffectInstance

theorem validate_eq_ok {i : EffectInstance} :
    i.validate = .ok () ↔ ¬ i.timeBegin > i.timeEnd ∧ i.repetitions ≠ 0 := by
  unfold validate
  by_cases hwindow : i.timeBegin > i.timeEnd
  · simp [hwindow, bind, Except.bind, throw, throwThe, MonadExceptOf.throw]
  · by_cases hrepetitions : i.repetitions = 0
    · simp [hwindow, hrepetitions, throw, throwThe, MonadExceptOf.throw]
    · simp [hwindow, hrepetitions, pure, Except.pure]

/-- An instance that does nothing in the window of another one. -/
def standIn (i : EffectInstance) : EffectInstance where
  effectId := "Dummy"
  timeBegin := i.timeBegin
  timeEnd := i.timeEnd

theorem validate_standIn {i : EffectInstance} (h : i.validate = .ok ()) :
    i.standIn.validate = .ok () :=
  validate_eq_ok.2 ⟨(validate_eq_ok.1 h).1, by simp [standIn]⟩

end EffectInstance

namespace TimelineConfig

theorem validate_eq_ok {c : TimelineConfig} :
    c.validate = .ok () ↔ (∃ n, gridParticleCount c.gridWidth c.gridHeight = .ok n) ∧
      ∀ i ∈ c.instances, i.validate = .ok () := by
  have hall : ∀ is : List EffectInstance, is.forM EffectInstance.validate = .ok () ↔
      ∀ i ∈ is, i.validate = .ok () := by
    intro is
    induction is with
    | nil => simp [pure, Except.pure]
    | cons i is ih =>
      rw [List.forall_mem_cons, ← ih]
      change (i.validate >>= fun _ => is.forM EffectInstance.validate) = .ok () ↔ _
      cases i.validate with
      | error e => simp [bind, Except.bind]
      | ok u => simp [bind, Except.bind]
  rw [← hall, validate]
  cases gridParticleCount c.gridWidth c.gridHeight with
  | error e => simp [bind, Except.bind]
  | ok n => simp [bind, Except.bind]

/-- A timeline never ends before it begins, whatever its instances say. -/
theorem zero_le_duration (c : TimelineConfig) : (0.0 : Float) ≤ c.duration :=
  Scalar.zero_le_foldl_max _ (by decide)

/-! ## Stand-ins -/

/-- Stand-ins for the instances at some places in build order; the first
track begins at a number. -/
def standIns (away : Nat → Bool) : Nat → List Track → List Track
  | _, [] => []
  | n, t :: ts =>
    (t.mapIdx fun k i => if away (n + k) then i.standIn else i)
      :: standIns away (n + t.length) ts

/-- The timeline with stand-ins at some places in build order. -/
def withStandIns (c : TimelineConfig) (away : Nat → Bool) : TimelineConfig :=
  { c with tracks := standIns away 0 c.tracks }

theorem flatten_standIns (away : Nat → Bool) (n : Nat) (ts : List Track) :
    (standIns away n ts).flatten
      = ts.flatten.mapIdx fun k i => if away (n + k) then i.standIn else i := by
  induction ts generalizing n with
  | nil => rfl
  | cons t ts ih =>
    rw [standIns, List.flatten_cons, List.flatten_cons, List.mapIdx_append, ih]
    simp only [Nat.add_assoc, Nat.add_comm t.length]

/-- Build order is kept. -/
theorem instances_withStandIns (c : TimelineConfig) (away : Nat → Bool) :
    (c.withStandIns away).instances
      = c.instances.mapIdx fun k i => if away k then i.standIn else i := by
  have hflatten := flatten_standIns away 0 c.tracks
  simp only [Nat.zero_add] at hflatten
  exact hflatten

theorem validate_withStandIns {c : TimelineConfig} (away : Nat → Bool)
    (h : c.validate = .ok ()) : (c.withStandIns away).validate = .ok () := by
  obtain ⟨hgrid, hinstances⟩ := validate_eq_ok.1 h
  refine validate_eq_ok.2 ⟨hgrid, fun i hi => ?_⟩
  rw [instances_withStandIns, List.mem_mapIdx] at hi
  obtain ⟨k, hk, rfl⟩ := hi
  have hvalid := hinstances _ (List.getElem_mem hk)
  split
  · exact EffectInstance.validate_standIn hvalid
  · exact hvalid

end TimelineConfig

end ParticleTimeline
