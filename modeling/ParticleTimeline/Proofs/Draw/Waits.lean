import Mathlib.Data.List.Forall2
import ParticleTimeline.Proofs.Draw.Command
/-!
# Builds that wait otherwise

What a registration contributes is what it does and how it ends, and not how
often it waits on the way (`Registration.SameButWaits`). Effects that do not
look at the clock may wait as they like, now often and now not at all: a build
comes to the same command whenever it began, however often its registrations
waited and however often it was polled (`Build.Left.command_same`).
-/

namespace ParticleTimeline

/-! ## Effects that do the same -/

/-- Two registrations that do the same and end in the same way, however often
each of them waits. -/
structure Registration.SameButWaits (g h : Registration) : Prop where
  actions : g.actions = h.actions
  ending : g.ending = h.ending

namespace Registration.SameButWaits

variable {g h k : Registration}

theorem refl (g : Registration) : g.SameButWaits g := ⟨rfl, rfl⟩

theorem symm (hsame : g.SameButWaits h) : h.SameButWaits g :=
  ⟨hsame.actions.symm, hsame.ending.symm⟩

theorem trans (hsame : g.SameButWaits h) (hsame' : h.SameButWaits k) : g.SameButWaits k :=
  ⟨hsame.actions.trans hsame'.actions, hsame.ending.trans hsame'.ending⟩

theorem faultless (hsame : g.SameButWaits h) (hfaultless : h.Faultless) : g.Faultless := by
  intro s
  obtain ⟨honce, huncut, hundone⟩ := hfaultless s
  refine ⟨?_, ?_, fun e he => ?_⟩
  · rw [hsame.actions]
    exact honce
  · rw [hsame.actions]
    exact huncut
  · rw [hsame.actions]
    exact hundone e (hsame.ending ▸ he)

end Registration.SameButWaits

/-- Two effects of one id that do the same whatever they are asked. -/
structure Effect.SameButWaits (e f : Effect) : Prop where
  id : e.id = f.id
  registers : ∀ q : Request, (e.register q).SameButWaits (f.register q)

namespace Registry

/-- Two registries whose effects do the same, one by one. -/
def SameButWaits (r s : Registry) : Prop := r.effects.Forall₂ Effect.SameButWaits s.effects

/-- What an effect does, and how it ends, does not depend on when the build
began. How often it waits may. -/
def Timeless (r : Registry) : Prop :=
  ∀ e ∈ r.effects, ∀ (q : Request) (moment : FrameContext),
    (e.register { q with moment }).SameButWaits (e.register q)

namespace SameButWaits

variable {r s t : Registry}

theorem refl (r : Registry) : r.SameButWaits r :=
  List.forall₂_same.2 fun e _ => ⟨rfl, fun q => .refl (e.register q)⟩

theorem symm (h : r.SameButWaits s) : s.SameButWaits r :=
  h.flip.imp fun _ _ hsame => ⟨hsame.id.symm, fun q => (hsame.registers q).symm⟩

theorem trans (h : r.SameButWaits s) (h' : s.SameButWaits t) : r.SameButWaits t := by
  unfold SameButWaits at h h' ⊢
  generalize r.effects = es, s.effects = fs, t.effects = gs at h h'
  induction h generalizing gs with
  | nil =>
    cases h'
    exact .nil
  | cons hsame _ ih =>
    cases h' with
    | cons hsame' hrest =>
      exact .cons ⟨hsame.id.trans hsame'.id,
        fun q => (hsame.registers q).trans (hsame'.registers q)⟩ (ih _ hrest)

/-- Every effect has its counterpart. -/
theorem exists_mem (h : r.SameButWaits s) {e : Effect} (he : e ∈ r.effects) :
    ∃ f ∈ s.effects, e.SameButWaits f := by
  unfold SameButWaits at h
  generalize r.effects = es, s.effects = fs at h he
  induction h with
  | nil => cases he
  | cons hsame _ ih =>
    rcases List.mem_cons.1 he with rfl | he
    · exact ⟨_, List.mem_cons_self, hsame⟩
    · obtain ⟨f, hf, hrest⟩ := ih he
      exact ⟨f, List.mem_cons_of_mem _ hf, hrest⟩

theorem faultless (h : r.SameButWaits s) (hfaultless : s.Faultless) : r.Faultless := by
  intro e he q
  obtain ⟨f, hf, hsame⟩ := h.exists_mem he
  exact (hsame.registers q).faultless (hfaultless f hf q)

theorem timeless (h : r.SameButWaits s) (htimeless : s.Timeless) : r.Timeless := by
  intro e he q moment
  obtain ⟨f, hf, hsame⟩ := h.exists_mem he
  exact ((hsame.registers _).trans (htimeless f hf q moment)).trans (hsame.registers q).symm

/-- An effect is found under the same id. -/
theorem get (h : r.SameButWaits s) {id : String} {f : Effect} (hget : s.get id = .ok f) :
    ∃ e, r.get id = .ok e ∧ e.SameButWaits f := by
  unfold SameButWaits at h
  unfold Registry.get at hget ⊢
  generalize r.effects = es, s.effects = fs at h hget
  induction h with
  | nil => cases hget
  | @cons e f' es fs hsame _ ih =>
    rw [List.find?_cons] at hget ⊢
    rw [hsame.id]
    cases hid : decide (f'.id = id) with
    | true =>
      rw [hid] at hget
      obtain rfl := Except.ok.inj hget
      exact ⟨e, rfl, hsame⟩
    | false =>
      rw [hid] at hget
      exact ih hget

end SameButWaits

end Registry

/-! ## Builds of such effects -/

namespace Enrolment

/-- The enrolment with a registration that does not wait. -/
def prompt (e : Enrolment) : Enrolment :=
  { e with registration := { moves := e.actions.map .act, ending := e.registration.ending } }

@[simp] theorem prompt_actions (e : Enrolment) : e.prompt.actions = e.actions :=
  Registration.actions_ofActions e.actions

@[simp] theorem prompt_stands (e : Enrolment) : e.prompt.stands = e.stands := rfl

@[simp] theorem prompt_uniforms (e : Enrolment) : e.prompt.uniforms = e.uniforms := by
  simp only [uniforms, prompt_actions, prompt_stands]
  rfl

@[simp] theorem prompt_attributes (e : Enrolment) : e.prompt.attributes = e.attributes := by
  simp only [attributes, prompt_actions, prompt_stands]
  rfl

@[simp] theorem prompt_hooks (e : Enrolment) : e.prompt.hooks = e.hooks := by
  simp only [hooks, prompt_actions, prompt_stands]

theorem prompt_change (e : Enrolment) : e.prompt.change = e.change := by
  funext s
  simp only [change, close, prompt_actions, prompt_stands, prompt_uniforms, prompt_attributes]
  rfl

end Enrolment

namespace Build

variable {c : TimelineConfig} {grid : ParticleGrid Float32} {moment : FrameContext}
variable {queue : List Queued} {r r' : Registry} {patient : Bool}

/-- **Waits leave no trace in a command.** -/
theorem ofRoll_prompt (c : TimelineConfig) (grid : ParticleGrid Float32) (rl : List Enrolment) :
    ofRoll c grid (rl.map Enrolment.prompt) = ofRoll c grid rl := by
  have hafter : ∀ s : Stages, s.after (rl.map Enrolment.prompt) = s.after rl := by
    intro s
    rw [Stages.after, List.foldl_map]
    simp only [Enrolment.prompt_change]
    rfl
  simp only [ofRoll, source, hafter, List.flatMap_map, List.map_map, Function.comp_def,
    Enrolment.prompt_uniforms, Enrolment.prompt_attributes, Enrolment.prompt_hooks]

/-- The effects of a timeline are queued under the same ids. -/
theorem queue_same (hsame : r'.SameButWaits r) (hqueue : Build.queue c r = .ok queue) :
    ∃ queue', Build.queue c r' = .ok queue' ∧
      queue'.Forall₂ (fun q' q => q'.subject = q.subject ∧ q'.effect.SameButWaits q.effect)
        queue := by
  obtain ⟨hvalid, hsubjects, heffects⟩ := queue_eq_ok.1 hqueue
  have hall : ∀ qs : List Queued, (∀ q ∈ qs, r.get q.subject.effectId = .ok q.effect) →
      ∃ qs' : List Queued, (∀ q ∈ qs', r'.get q.subject.effectId = .ok q.effect) ∧
        qs'.Forall₂ (fun q' q => q'.subject = q.subject ∧ q'.effect.SameButWaits q.effect) qs := by
    intro qs
    induction qs with
    | nil => exact fun _ => ⟨[], by simp, .nil⟩
    | cons q qs ih =>
      intro h
      obtain ⟨e, he, hsame'⟩ := hsame.get (h q List.mem_cons_self)
      obtain ⟨qs', hqs', hrest⟩ := ih fun q' hq' => h q' (List.mem_cons_of_mem _ hq')
      exact ⟨⟨q.subject, e⟩ :: qs', List.forall_mem_cons.2 ⟨he, hqs'⟩,
        .cons ⟨rfl, hsame'⟩ hrest⟩
  obtain ⟨queue', hqueue', hpairs⟩ := hall queue heffects
  have hmap : queue'.map Queued.subject = queue.map Queued.subject := by
    clear hqueue heffects hsubjects hqueue'
    induction hpairs with
    | nil => rfl
    | cons hpair _ ih => rw [List.map_cons, List.map_cons, hpair.1, ih]
  exact ⟨queue', queue_eq_ok.2 ⟨hvalid, hmap.trans hsubjects, hqueue'⟩, hpairs⟩

/-- What is enrolled is the same but for waits, whenever the builds began. -/
theorem roll_same {queue' : List Queued} (htimeless : r.Timeless)
    (hmember : ∀ q ∈ queue, q.effect ∈ r.effects)
    (hpairs : queue'.Forall₂
      (fun q' q => q'.subject = q.subject ∧ q'.effect.SameButWaits q.effect) queue)
    (moment' : FrameContext) :
    (roll c grid moment' queue').map Enrolment.prompt
      = (roll c grid moment queue).map Enrolment.prompt := by
  unfold roll
  generalize 0 = n
  induction hpairs generalizing n with
  | nil => rfl
  | @cons q' q rest' rest hpair _ ih =>
    obtain ⟨hsubject, heffect⟩ := hpair
    have hlater := ih (fun q hq => hmember q (List.mem_cons_of_mem _ hq)) (n + 1)
    -- First the other effect, then the other moment.
    have hsame := (heffect.registers ((sharedDraft c grid moment').request n q.subject)).trans
      (htimeless q.effect (hmember q List.mem_cons_self)
        ((sharedDraft c grid moment).request n q.subject) moment')
    have hhead : ((sharedDraft c grid moment').enrolment n q').prompt
        = ((sharedDraft c grid moment).enrolment n q).prompt := by
      simp only [Enrolment.prompt, Draft.enrolment, Enrolment.actions, hsubject]
      congr 2
      · exact congrArg (List.map Move.act) hsame.actions
      · exact hsame.ending
    simp only [Draft.enrol, List.map_cons, hhead, hlater]

/-- **Neither waiting nor the clock changes a command.** What a build comes to
after some polls is what any other build of the timeline comes to, whenever it
begins and however often its effects wait, as long as they do the same. -/
theorem Left.command_same {left : Build} {command : DrawCommand}
    (h : Left (start c grid moment queue) left) (hqueue : Build.queue c r = .ok queue)
    (hfaultless : r.Faultless) (htimeless : r.Timeless)
    (hfinished : (left.advance patient).outcome = .finished command)
    (hsame : r'.SameButWaits r) :
    ∃ queue', Build.queue c r' = .ok queue' ∧
      ∀ moment', (start c grid moment' queue').finish.outcome = .finished command := by
  obtain ⟨queue', hqueue', hpairs⟩ := queue_same hsame hqueue
  have hmember : ∀ q ∈ queue, q.effect ∈ r.effects := fun q hq =>
    Registry.mem_of_get ((queue_eq_ok.1 hqueue).2.2 q hq)
  refine ⟨queue', hqueue', fun moment' => ?_⟩
  have hroll : (roll c grid moment' queue').map Enrolment.prompt
      = (roll c grid moment queue).map Enrolment.prompt :=
    roll_same htimeless hmember hpairs moment'
  obtain rfl := h.finished hfinished
  have hends := (finished_iff.1 ⟨_, h.finish_of_finished hfinished⟩).2
  -- How a registration ends is not a matter of its waits.
  have hends' : ∀ e ∈ roll c grid moment' queue', e.Ends := by
    intro e he
    obtain ⟨f, hf, hprompt⟩ : ∃ f ∈ roll c grid moment queue, f.prompt = e.prompt := by
      rw [← List.mem_map, ← hroll]
      exact List.mem_map_of_mem he
    have hending : f.prompt.registration.ending = e.prompt.registration.ending := by rw [hprompt]
    exact fun hnever => hends f hf (hending.trans hnever)
  have hsafe : (sharedStages c grid).Safe (roll c grid moment' queue') :=
    Stages.safe_of_faultless fun e he => forall_enrol hqueue' (hsame.faultless hfaultless) he
  rw [start_finish hsafe hends', ← ofRoll_prompt, hroll, ofRoll_prompt]

end Build

end ParticleTimeline
