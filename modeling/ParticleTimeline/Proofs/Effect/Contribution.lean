import ParticleTimeline.Effect.Registry
import ParticleTimeline.Proofs.Effect.Workspace
import ParticleTimeline.Proofs.Glsl.Binding
/-!
# What a registration has contributed

However often a registration waits, what it has contributed at any time is
given by the actions it has made: `Contribution.of` takes the sources as the
actions have left them, and collects their bindings and hooks. A registration
that binds no name twice does not fault (`Contribution.run_of`), unless it cuts
a source inside a character (`Contribution.run_cut`); one that comes to its end
has done neither (`Contribution.eq_of_run`). Waiting for it to end makes the same actions as
asking again after every wait (`Contribution.run_patient`).
-/

namespace ParticleTimeline

namespace Action

/-- The uniform that an action binds. -/
def uniform? : Action → Option (Binding Uniform)
  | .bindUniform name type value => some { name, type, value }
  | _ => none

/-- The attribute that an action binds. -/
def attribute? : Action → Option (Binding Attribute)
  | .bindAttribute name type value => some { name, type, value }
  | _ => none

/-- The hook for every frame that an action puts down. -/
def frameHook? : Action → Option FrameHook
  | .onFrame hook => some hook
  | _ => none

/-- The teardown hook that an action puts down. -/
def teardown? : Action → Option String
  | .onTeardown tag => some tag
  | _ => none

/-- The hooks that some actions put down. -/
def hooks (as : List Action) : HookList where
  frame := as.filterMap frameHook?
  teardown := as.filterMap teardown?

/-- No name is bound twice, neither for a uniform nor for an attribute. -/
structure BindsOnce (as : List Action) : Prop where
  uniforms : ((as.filterMap uniform?).map Binding.name).Nodup
  attributes : ((as.filterMap attribute?).map Binding.name).Nodup

theorem bindsOnce_iff {as : List Action} :
    BindsOnce as ↔ ((as.filterMap uniform?).map Binding.name).Nodup ∧
      ((as.filterMap attribute?).map Binding.name).Nodup :=
  ⟨fun h => ⟨h.uniforms, h.attributes⟩, fun h => ⟨h.1, h.2⟩⟩

instance (as : List Action) : Decidable (BindsOnce as) := decidable_of_iff _ bindsOnce_iff.symm

theorem BindsOnce.of_append {as bs : List Action} (h : BindsOnce (as ++ bs)) : BindsOnce as := by
  obtain ⟨hu, ha⟩ := h
  simp only [List.filterMap_append, List.map_append] at hu ha
  exact ⟨(List.nodup_append.1 hu).1, (List.nodup_append.1 ha).1⟩

end Action

namespace Move

/-- The actions that are made in one go: up to the first wait, or all of them
when waits are sat out. -/
def made (patient : Bool) : List Move → List Action
  | [] => []
  | .act a :: ms => a :: made patient ms
  | .wait :: ms => if patient then made patient ms else []

/-- What a wait leaves to do, if there is one in the way. -/
def left? (patient : Bool) : List Move → Option (List Move)
  | [] => none
  | .act _ :: ms => left? patient ms
  | .wait :: ms => if patient then left? patient ms else some ms

/-- All actions among some moves. -/
def actions (ms : List Move) : List Action := made true ms

@[simp] theorem left?_true (ms : List Move) : left? true ms = none := by
  induction ms with
  | nil => rfl
  | cons m ms ih => cases m <;> simpa [left?] using ih

/-- What is made now and what is left are all there is to make. -/
theorem made_append_actions (patient : Bool) (ms : List Move) :
    made patient ms ++ (left? patient ms).elim [] actions = actions ms := by
  induction ms with
  | nil => rfl
  | cons m ms ih =>
    cases m with
    | act a => simpa [made, left?, actions] using ih
    | wait => cases patient <;> simp [made, left?, actions]

theorem made_of_left?_eq_none {patient : Bool} {ms : List Move} (h : left? patient ms = none) :
    made patient ms = actions ms := by
  have := made_append_actions patient ms
  rw [h] at this
  simpa using this

theorem actions_of_left?_eq_some {patient : Bool} {ms rest : List Move}
    (h : left? patient ms = some rest) : made patient ms ++ actions rest = actions ms := by
  have := made_append_actions patient ms
  rw [h] at this
  simpa using this

end Move

/-- All actions of a registration. -/
def Registration.actions (g : Registration) : List Action := Move.actions g.moves

/-- A registration whose block has been opened in some sources does not fault:
it binds no name twice, it cuts no source inside a character, and if it fails
all it did to the sources can be rolled back. -/
structure Registration.Careful (g : Registration) (s : Stages) : Prop where
  once : Action.BindsOnce g.actions
  uncut : (Workspace.new s).Faultless g.actions
  undone : ∀ e, g.ending = .fails e →
    (((Workspace.new s).after g.actions).stages.rollback s.marks).2 = none

/-- A registration that does not fault, whatever it is given to work on. -/
def Registration.Faultless (g : Registration) : Prop := ∀ s, g.Careful s

/-- All that a registration does which takes back only what is its own can be
rolled back. -/
theorem Registration.careful_of_local {g : Registration} (h : ∀ a ∈ g.actions, a.Local)
    (honce : Action.BindsOnce g.actions) {s : Stages}
    (huncut : (Workspace.new s).Faultless g.actions) : g.Careful s :=
  ⟨honce, huncut, fun _ _ => congrArg Prod.snd (Workspace.rollback_of_local h s)⟩

/-- A registration that only adds need only mind its names. -/
theorem Registration.faultless_of_appends {g : Registration} (h : ∀ a ∈ g.actions, a.Appends)
    (honce : Action.BindsOnce g.actions) : g.Faultless := fun _ =>
  careful_of_local (fun a ha => (h a ha).local) honce (Workspace.after_of_appends h _).2

namespace Registry

/-- No effect faults, whatever it is asked and whatever it is given to work on. -/
def Faultless (r : Registry) : Prop :=
  ∀ e ∈ r.effects, ∀ q : Request, (e.register q).Faultless

/-- Every effect binds each name at most once, whatever it is asked. -/
def BindsOnce (r : Registry) : Prop :=
  ∀ e ∈ r.effects, ∀ q : Request, Action.BindsOnce (e.register q).actions

/-- No effect takes anything back, whatever it is asked. -/
def Appends (r : Registry) : Prop :=
  ∀ e ∈ r.effects, ∀ q : Request, ∀ a ∈ (e.register q).actions, a.Appends

/-- No effect declares a uniform or an attribute past its allocators, or takes
back what was there before it, whatever it is asked. -/
def KeepsToAllocators (r : Registry) : Prop :=
  ∀ e ∈ r.effects, ∀ q : Request, ∀ a ∈ (e.register q).actions, a.KeepsToAllocators

theorem Appends.faultless {r : Registry} (h : r.Appends) (honce : r.BindsOnce) : r.Faultless :=
  fun e he q => Registration.faultless_of_appends (h e he q) (honce e he q)

end Registry

namespace Contribution

open ParticleTimeline.Action (BindsOnce)

/-- What some actions contribute under a number, with the sources as they have
left them. -/
def of (w : Workspace) (number : Nat) (as : List Action) : Contribution where
  toWorkspace := w
  uniforms := ⟨some number, as.filterMap Action.uniform?⟩
  attributes := ⟨some number, as.filterMap Action.attribute?⟩
  hooks := Action.hooks as

variable {w : Workspace} {number : Nat} {a : Action} {as : List Action} {patient : Bool}

theorem of_nil (stages : Stages) (number : Nat) :
    of (.new stages) number [] = .start stages number := rfl

/-- Binding a name that was not bound yet goes behind the bindings there are. -/
theorem add_eq {α : Type} {bs : List (Binding α)} {b : Binding α} {id : Option Nat}
    (h : ((bs ++ [b]).map Binding.name).Nodup) :
    (⟨id, bs⟩ : Allocator α).add b.name b.type b.value
      = .ok (⟨id, bs ++ [b]⟩, identifier id b.name) := by
  have hnew : (bs.any fun c => decide (c.name = b.name)) = false := by
    simp only [List.map_append, List.map_cons, List.map_nil, List.nodup_append] at h
    rw [List.any_eq_false]
    intro c hc
    simpa using h.2.2 c.name (List.mem_map_of_mem hc) b.name (by simp)
  rw [Allocator.add, if_neg (by simp [hnew])]

/-- **One more action** is one more action contributed. -/
theorem apply_of (h : BindsOnce (as ++ [a])) (huncut : (w.act a).2 = none) :
    (of w number as).apply a = .ok (of (w.act a).1 number (as ++ [a])) := by
  obtain ⟨hu, ha⟩ := h
  simp only [of, Action.hooks, List.filterMap_append]
  cases a with
  | bindUniform name type value =>
    simp only [List.filterMap_append, List.filterMap_cons, Action.uniform?, List.filterMap_nil]
      at hu
    simp only [apply]
    rw [add_eq (b := ⟨name, type, value⟩) hu]
    simp [Except.map, Workspace.act, Action.uniform?, Action.attribute?, Action.frameHook?,
      Action.teardown?]
  | bindAttribute name type value =>
    simp only [List.filterMap_append, List.filterMap_cons, Action.attribute?, List.filterMap_nil]
      at ha
    simp only [apply]
    rw [add_eq (b := ⟨name, type, value⟩) ha]
    simp [Except.map, Workspace.act, Action.uniform?, Action.attribute?, Action.frameHook?,
      Action.teardown?]
  | onFrame hook =>
    simp [apply, HookList.onFrame, Workspace.act, Action.uniform?, Action.attribute?,
      Action.frameHook?, Action.teardown?]
  | onTeardown tag =>
    simp [apply, HookList.onTeardown, Workspace.act, Action.uniform?, Action.attribute?,
      Action.frameHook?, Action.teardown?]
  -- The others do to the sources what they do, and nothing else.
  | declare | addGlobal | addMain | mark | rollback =>
    simp only [apply]
    generalize hact : w.act _ = result at huncut ⊢
    obtain ⟨w', fault⟩ := result
    obtain rfl : fault = none := huncut
    simp [Action.uniform?, Action.attribute?, Action.frameHook?, Action.teardown?]

/-- **A run that cuts no character** makes the actions up to the next wait, and
stands there. -/
theorem run_of {ms : List Move} (h : BindsOnce (as ++ Move.made patient ms))
    (huncut : w.Faultless (Move.made patient ms)) :
    run patient ms (of w number as) =
      match Move.left? patient ms with
      | none => .ended (of (w.after (Move.made patient ms)) number (as ++ Move.made patient ms))
      | some rest =>
        .waiting (of (w.after (Move.made patient ms)) number (as ++ Move.made patient ms))
          rest := by
  induction ms generalizing w as with
  | nil => simp [run, Move.left?, Move.made]
  | cons m ms ih =>
    cases m with
    -- What is made and what is still to be made are always all actions.
    | act a =>
      have hall : BindsOnce ((as ++ [a]) ++ Move.made patient ms) := by
        simpa [Move.made] using h
      obtain ⟨hnow, hlater⟩ : (w.act a).2 = none ∧ (w.act a).1.Faultless (Move.made patient ms) :=
        huncut
      simp only [run, apply_of hall.of_append hnow, ih hall hlater, Move.left?, Move.made,
        Workspace.after_cons]
      simp
    | wait =>
      cases patient with
      | true =>
        have hall : BindsOnce (as ++ Move.made true ms) := by simpa [Move.made] using h
        simpa [run, Move.left?, Move.made] using ih hall huncut
      | false => simp [run, Move.left?, Move.made]

/-- An action that cuts a character does not get further. -/
theorem apply_cut {fault : Fault} (hcut : (w.act a).2 = some fault) :
    (of w number as).apply a = .error .splitCharacter := by
  obtain rfl := Workspace.eq_splitCharacter_of_act hcut
  cases a with
  | rollback stage target =>
    simp only [apply]
    generalize hact : (of w number as).toWorkspace.act (.rollback stage target) = result
    change w.act (.rollback stage target) = result at hact
    rw [hact] at hcut
    obtain ⟨w', fault⟩ := result
    obtain rfl : fault = some .splitCharacter := hcut
    rfl
  | _ => cases hcut

/-- **A run that binds no name twice** faults in one way only: it cuts a
character. -/
theorem run_cut {ms : List Move} (h : BindsOnce (as ++ Move.made patient ms))
    (hcut : ¬ w.Faultless (Move.made patient ms)) :
    ∃ c, run patient ms (of w number as) = .faulted c .splitCharacter := by
  induction ms generalizing w as with
  | nil => exact absurd trivial hcut
  | cons m ms ih =>
    cases m with
    | act a =>
      have hall : BindsOnce ((as ++ [a]) ++ Move.made patient ms) := by
        simpa [Move.made] using h
      cases hnow : (w.act a).2 with
      | none =>
        have hlater : ¬ (w.act a).1.Faultless (Move.made patient ms) :=
          fun hrest => hcut ⟨hnow, hrest⟩
        obtain ⟨c, hc⟩ := ih hall hlater
        refine ⟨c, ?_⟩
        rw [run, apply_of hall.of_append hnow]
        exact hc
      | some fault => exact ⟨_, by rw [run, apply_cut hnow]⟩
    | wait =>
      cases patient with
      | true => exact ih (by simpa [Move.made] using h) hcut
      | false => exact absurd trivial hcut

/-- **Sitting out the waits** is asking again after every one of them. -/
theorem run_patient (ms : List Move) (c : Contribution) :
    run true ms c =
      match run false ms c with
      | .waiting c rest => run true rest c
      | done => done := by
  induction ms generalizing c with
  | nil => rfl
  | cons m ms ih =>
    cases m with
    | act a =>
      simp only [run]
      cases c.apply a with
      | ok c => exact ih c
      | error fault => rfl
    | wait => simp [run]

/-! ## Registrations that have come to an end -/

/-- A name that could be bound was not bound before. -/
theorem nodup_of_add {α : Type} {bs : List (Binding α)} {b : Binding α} {id : Option Nat}
    {added : Allocator α × String} (hold : (bs.map Binding.name).Nodup)
    (h : (⟨id, bs⟩ : Allocator α).add b.name b.type b.value = .ok added) :
    ((bs ++ [b]).map Binding.name).Nodup := by
  have hnew : (bs.any fun c => decide (c.name = b.name)) = false := by
    cases hany : bs.any fun c => decide (c.name = b.name) with
    | true =>
      rw [Allocator.add, if_pos hany] at h
      cases h
    | false => rfl
  rw [List.any_eq_false] at hnew
  rw [List.map_append, List.nodup_append]
  refine ⟨hold, List.nodup_cons.2 ⟨List.not_mem_nil, List.nodup_nil⟩,
    fun name hin name' hin' => ?_⟩
  obtain ⟨c, hc, rfl⟩ := List.mem_map.1 hin
  obtain rfl := List.mem_singleton.1 hin'
  simpa using hnew c hc

/-- An action that could be made has bound no name twice, and has cut no
character. -/
theorem careful_of_apply {c : Contribution} (h : BindsOnce as)
    (happly : (of w number as).apply a = .ok c) :
    BindsOnce (as ++ [a]) ∧ (w.act a).2 = none := by
  rw [Action.bindsOnce_iff, List.filterMap_append, List.filterMap_append]
  cases a with
  | bindUniform name type value =>
    cases hadd : (of w number as).uniforms.add name type value with
    | error fault =>
      rw [apply, hadd] at happly
      cases happly
    | ok added =>
      have hnames := nodup_of_add (b := ⟨name, type, value⟩) h.uniforms hadd
      exact ⟨⟨hnames, by simpa [List.filterMap_cons, Action.attribute?] using h.attributes⟩, rfl⟩
  | bindAttribute name type value =>
    cases hadd : (of w number as).attributes.add name type value with
    | error fault =>
      rw [apply, hadd] at happly
      cases happly
    | ok added =>
      have hnames := nodup_of_add (b := ⟨name, type, value⟩) h.attributes hadd
      exact ⟨⟨by simpa [List.filterMap_cons, Action.uniform?] using h.uniforms, hnames⟩, rfl⟩
  -- The others leave both lists of names as they were.
  | declare | addGlobal | addMain | mark | onFrame | onTeardown =>
    exact ⟨⟨by simpa [List.filterMap_cons, Action.uniform?] using h.uniforms,
      by simpa [List.filterMap_cons, Action.attribute?] using h.attributes⟩, rfl⟩
  | rollback stage target =>
    refine ⟨⟨by simpa [List.filterMap_cons, Action.uniform?] using h.uniforms,
      by simpa [List.filterMap_cons, Action.attribute?] using h.attributes⟩, ?_⟩
    simp only [apply] at happly
    generalize hact : (of w number as).toWorkspace.act (.rollback stage target) = result at happly
    change w.act (.rollback stage target) = result at hact
    obtain ⟨w', _ | fault⟩ := result
    · rw [hact]
    · cases happly

theorem careful_of_run {ms : List Move} {c : Contribution} (h : BindsOnce as)
    (hrun : run true ms (of w number as) = .ended c) :
    BindsOnce (as ++ Move.actions ms) ∧ w.Faultless (Move.actions ms) := by
  induction ms generalizing w as with
  | nil => simpa [Move.actions, Move.made, Workspace.Faultless] using h
  | cons m ms ih =>
    cases m with
    | act a =>
      rw [run] at hrun
      cases happly : (of w number as).apply a with
      | error fault =>
        rw [happly] at hrun
        cases hrun
      | ok c' =>
        obtain ⟨honce, huncut⟩ := careful_of_apply h happly
        obtain rfl : of (w.act a).1 number (as ++ [a]) = c' :=
          Except.ok.inj ((apply_of honce huncut).symm.trans happly)
        rw [happly] at hrun
        obtain ⟨hall, hlater⟩ := ih honce hrun
        refine ⟨?_, huncut, hlater⟩
        simpa [Move.actions, Move.made] using hall
    | wait =>
      rw [run, if_pos rfl] at hrun
      have hall := ih h hrun
      simpa [Move.actions, Move.made] using hall

/-- **A run that comes to its end was careful**, and what it has contributed is
what all its actions contribute. -/
theorem eq_of_run {ms : List Move} {c : Contribution} (h : BindsOnce as)
    (hrun : run true ms (of w number as) = .ended c) :
    BindsOnce (as ++ Move.actions ms) ∧ w.Faultless (Move.actions ms) ∧
      c = of (w.after (Move.actions ms)) number (as ++ Move.actions ms) := by
  obtain ⟨honce, huncut⟩ := careful_of_run h hrun
  have hended : run true ms (of w number as) = _ := run_of honce huncut
  rw [Move.left?_true] at hended
  exact ⟨honce, huncut, Progress.ended.inj (hrun.symm.trans hended)⟩

end Contribution

end ParticleTimeline
