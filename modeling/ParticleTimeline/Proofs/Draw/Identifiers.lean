import Mathlib.Data.List.Nodup
import ParticleTimeline.Proofs.Draw.Declarations
/-!
# Identifiers of both kinds

Among the uniforms of a command no identifier comes twice, and none among its
attributes. One of each kind can be the same. Registrations have different
numbers and the shared names have none, so the two come from one registration,
whose allocators share its number and do not see each other
(`Build.named_ofRoll`). An effect that asks both of them for one name gets a
command without a fault, in which the vertex stage declares that name twice
(`Build.twofold_declared_twice`). No built-in effect does
(`Registry.bindsApart_builtIn`).
-/

namespace ParticleTimeline

/-! ## Names bound both ways -/

namespace Action

/-- The names that some actions bind for uniforms. -/
def uniformNames (as : List Action) : List String := (as.filterMap uniform?).map Binding.name

/-- The names that some actions bind for attributes. -/
def attributeNames (as : List Action) : List String := (as.filterMap attribute?).map Binding.name

/-- No name is bound for a uniform and for an attribute. -/
def BindsApart (as : List Action) : Prop := ∀ x ∈ uniformNames as, x ∉ attributeNames as

instance : DecidablePred BindsApart := fun as =>
  inferInstanceAs (Decidable (∀ x ∈ uniformNames as, x ∉ attributeNames as))

theorem BindsApart.of_noUniform {as : List Action} (h : uniformNames as = []) : BindsApart as := by
  intro x hx
  rw [h] at hx
  cases hx

theorem BindsApart.of_noAttribute {as : List Action} (h : attributeNames as = []) :
    BindsApart as := by
  intro x _
  rw [h]
  exact List.not_mem_nil

end Action

/-- Effects that ask only one allocator for a name, whatever they are asked. -/
def Registry.BindsApart (r : Registry) : Prop :=
  ∀ e ∈ r.effects, ∀ q : Request, Action.BindsApart (e.register q).actions

/-- A built-in effect binds uniforms or attributes, but never both. -/
theorem Registry.bindsApart_builtInOf (source : PictureSource) :
    (builtInOf source).BindsApart := by
  intro e he q
  simp only [builtInOf, List.mem_cons, List.not_mem_nil, or_false] at he
  rcases he with rfl | rfl | rfl | rfl | rfl | rfl
  · exact .of_noAttribute rfl
  · exact .of_noAttribute rfl
  · simp only [Effect.converge]
    split <;> exact .of_noAttribute rfl
  · exact .of_noAttribute rfl
  · rcases Effect.changeImageOf_actions source q with hnone | ⟨p, actions, hfade, hactions⟩
    · rw [hnone]
      exact .of_noUniform rfl
    · obtain ⟨grid, -, rfl⟩ := fadeTo_eq_ok hfade
      rw [hactions]
      exact .of_noUniform rfl
  · exact .of_noUniform rfl

namespace Allocator

theorem mem_names_entries {α : Type} {a : Allocator α} {name : String} :
    name ∈ Table.names a.entries ↔
      ∃ x ∈ a.bindings.map Binding.name, name = identifier a.id x := by
  simp only [Table.names, entries, List.map_map, List.mem_map, Function.comp_apply]
  constructor
  · rintro ⟨b, hb, rfl⟩
    exact ⟨b.name, ⟨b, hb, rfl⟩, rfl⟩
  · rintro ⟨x, ⟨b, hb, rfl⟩, rfl⟩
    exact ⟨b, hb, rfl⟩

end Allocator

namespace Enrolment

variable {e : Enrolment} {name : String}

/-- A standing registration has bound a name for a uniform and for an
attribute, and this is its identifier. -/
def Doubles (e : Enrolment) (name : String) : Prop :=
  e.stands = true ∧ ∃ x ∈ Action.uniformNames e.actions,
    x ∈ Action.attributeNames e.actions ∧ name = identifier (some e.number) x

theorem mem_names_uniforms_iff : name ∈ Table.names e.uniforms ↔
    e.stands = true ∧ ∃ x ∈ Action.uniformNames e.actions,
      name = identifier (some e.number) x := by
  cases hstands : e.stands with
  | true => simp only [uniforms, hstands, if_true, true_and, Allocator.mem_names_entries,
      Action.uniformNames]
  | false => simp [uniforms, hstands, Table.names]

theorem mem_names_attributes_iff : name ∈ Table.names e.attributes ↔
    e.stands = true ∧ ∃ x ∈ Action.attributeNames e.actions,
      name = identifier (some e.number) x := by
  cases hstands : e.stands with
  | true => simp only [attributes, hstands, if_true, true_and, Allocator.mem_names_entries,
      Action.attributeNames]
  | false => simp [attributes, hstands, Table.names]

/-- **One registration, both kinds.** -/
theorem doubles_iff :
    e.Doubles name ↔ name ∈ Table.names e.uniforms ∧ name ∈ Table.names e.attributes := by
  rw [mem_names_uniforms_iff, mem_names_attributes_iff]
  constructor
  · rintro ⟨hstands, x, hu, ha, rfl⟩
    exact ⟨⟨hstands, x, hu, rfl⟩, hstands, x, ha, rfl⟩
  · rintro ⟨⟨hstands, x, hu, rfl⟩, -, y, ha, heq⟩
    obtain ⟨-, rfl⟩ := identifier_injective heq
    exact ⟨hstands, x, hu, ha, rfl⟩

theorem exists_doubles_iff :
    (∃ name, e.Doubles name) ↔ e.stands = true ∧ ¬ Action.BindsApart e.actions := by
  constructor
  · rintro ⟨name, hstands, x, hu, ha, -⟩
    exact ⟨hstands, fun hapart => hapart x hu ha⟩
  · rintro ⟨hstands, hboth⟩
    simp only [Action.BindsApart, not_forall, not_not] at hboth
    obtain ⟨x, hu, ha⟩ := hboth
    exact ⟨_, hstands, x, hu, ha, rfl⟩

end Enrolment

namespace Build

variable {c : TimelineConfig} {grid : ParticleGrid Float32} {moment : FrameContext}
variable {queue : List Queued} {r : Registry}

/-! ## The names of a command -/

theorem mem_names_shared_append {α : Type} {shared : List (String × Entry α)}
    {f : Enrolment → List (String × Entry α)} {rl : List Enrolment} {name : String} :
    name ∈ Table.names (shared ++ rl.flatMap f) ↔
      name ∈ Table.names shared ∨ ∃ e ∈ rl, name ∈ Table.names (f e) := by
  rw [Table.names, List.map_append, List.map_flatMap, List.mem_append, List.mem_flatMap]
  rfl

theorem disjoint_shared (c : TimelineConfig) (grid : ParticleGrid Float32) :
    ∀ name ∈ Table.names (sharedUniforms c).entries,
      name ∉ Table.names (sharedAttributes grid).entries := by
  rw [(names_shared c grid).1, (names_shared c grid).2]
  decide

/-- Numbers tell the registrations of a roll apart. -/
theorem eq_of_number {e f : Enrolment} (he : e ∈ roll c grid moment queue)
    (hf : f ∈ roll c grid moment queue) (h : e.number = f.number) : e = f := by
  have hpair : ((roll c grid moment queue).map Enrolment.number).Nodup :=
    List.pairwise_map.2 (Draft.pairwise_enrol _ _ _)
  exact List.inj_on_of_nodup_map hpair he hf h

/-- **An identifier of both kinds comes from one registration.** -/
theorem shared_by_one {name : String}
    (hu : name ∈ Table.names ((sharedUniforms c).entries
      ++ (roll c grid moment queue).flatMap Enrolment.uniforms))
    (ha : name ∈ Table.names ((sharedAttributes grid).entries
      ++ (roll c grid moment queue).flatMap Enrolment.attributes)) :
    ∃ e ∈ roll c grid moment queue, e.Doubles name := by
  obtain ⟨hunumbered, hanumbered⟩ := unnumbered_shared c grid
  rcases mem_names_shared_append.1 hu with hu | ⟨e, he, hu⟩
  · rcases mem_names_shared_append.1 ha with ha | ⟨e, -, ha⟩
    · exact absurd ha (disjoint_shared c grid name hu)
    · obtain ⟨x, rfl⟩ := Enrolment.mem_names_attributes ha
      exact absurd rfl (identifier_ne_of_unnumbered (hunumbered _ hu))
  · obtain ⟨x, rfl⟩ := Enrolment.mem_names_uniforms hu
    rcases mem_names_shared_append.1 ha with ha | ⟨f, hf, ha⟩
    · exact absurd rfl (identifier_ne_of_unnumbered (hanumbered _ ha))
    -- The identifier tells the number, and the number the registration.
    · obtain ⟨y, heq⟩ := Enrolment.mem_names_attributes ha
      obtain rfl := eq_of_number he hf (identifier_injective heq).1
      exact ⟨e, he, Enrolment.doubles_iff.2 ⟨hu, ha⟩⟩

/-- Which names a command has in both of its tables, and how often its vertex
stage declares a name. -/
structure Named (roll : List Enrolment) (command : DrawCommand) (vertex : ShaderSource) :
    Prop where
  compiled : command.vert = vertex.compile
  both : ∀ name, name ∈ Table.names command.uniforms ∧ name ∈ Table.names command.attributes ↔
    ∃ e ∈ roll, e.Doubles name
  /-- The tables have no name in common exactly if each standing registration
  keeps its names apart, -/
  disjoint : (∀ name ∈ Table.names command.uniforms, name ∉ Table.names command.attributes) ↔
    ∀ e ∈ roll, e.stands = true → Action.BindsApart e.actions
  /-- and just then no name comes twice among the lines of the vertex stage. -/
  lines : ∃ us as, us.Perm command.uniforms ∧ as.Perm command.attributes ∧
    vertex.sections.uniforms = Allocator.declarations .uniform us ∧
    vertex.sections.attributes = Allocator.declarations .attr as ∧
    ((Table.names us ++ Table.names as).Nodup ↔
      ∀ e ∈ roll, e.stands = true → Action.BindsApart e.actions)

theorem named_ofRoll (honce : ∀ e ∈ roll c grid moment queue, Action.BindsOnce e.actions)
    (hkeeps : ∀ e ∈ roll c grid moment queue, ∀ a ∈ e.actions, a.KeepsToAllocators) :
    Named (roll c grid moment queue) (ofRoll c grid (roll c grid moment queue))
      (source c grid (roll c grid moment queue) .vertex) := by
  obtain ⟨⟨hus, hunames⟩, has, hanames⟩ := perm_tables honce
  have huniforms := hus.map Prod.fst
  have hattributes := has.map Prod.fst
  have hboth : ∀ name, name ∈ Table.names (ofRoll c grid (roll c grid moment queue)).uniforms ∧
      name ∈ Table.names (ofRoll c grid (roll c grid moment queue)).attributes ↔
        ∃ e ∈ roll c grid moment queue, e.Doubles name := by
    intro name
    constructor
    · rintro ⟨hu, ha⟩
      exact shared_by_one (huniforms.mem_iff.1 hu) (hattributes.mem_iff.1 ha)
    · rintro ⟨e, he, hdoubles⟩
      obtain ⟨hu, ha⟩ := Enrolment.doubles_iff.1 hdoubles
      exact ⟨huniforms.mem_iff.2 (mem_names_shared_append.2 (.inr ⟨e, he, hu⟩)),
        hattributes.mem_iff.2 (mem_names_shared_append.2 (.inr ⟨e, he, ha⟩))⟩
  have hdisjoint : (∀ name ∈ Table.names (ofRoll c grid (roll c grid moment queue)).uniforms,
      name ∉ Table.names (ofRoll c grid (roll c grid moment queue)).attributes) ↔
        ∀ e ∈ roll c grid moment queue, e.stands = true → Action.BindsApart e.actions := by
    constructor
    · intro hapart e he hstands
      by_contra hnot
      obtain ⟨name, hdoubles⟩ := Enrolment.exists_doubles_iff.2 ⟨hstands, hnot⟩
      obtain ⟨hu, ha⟩ := (hboth name).2 ⟨e, he, hdoubles⟩
      exact hapart name hu ha
    · intro hapart name hu ha
      obtain ⟨e, he, hdoubles⟩ := (hboth name).1 ⟨hu, ha⟩
      obtain ⟨hstands, hnot⟩ := Enrolment.exists_doubles_iff.1 ⟨name, hdoubles⟩
      exact hnot (hapart e he hstands)
  have huslines := @source_uniforms c grid _ hkeeps .vertex
  have haslines := (@source_attributes c grid _ hkeeps .vertex).trans (if_pos rfl)
  refine ⟨rfl, hboth, hdisjoint, _, _, hus.symm, has.symm, huslines, haslines, ?_⟩
  -- The lines are those of the tables, and in one table no name comes twice.
  have hperm := (huniforms.append hattributes).symm
  refine (List.Perm.nodup_iff hperm).trans (Iff.trans ?_ hdisjoint)
  refine List.nodup_append.trans ⟨fun h name hu ha => h.2.2 name hu name ha rfl, fun h => ?_⟩
  refine ⟨hunames, hanames, fun name hu other ha heq => h name hu ?_⟩
  rwa [heq]

/-- What is asked of a registry holds of the roll of every build. -/
theorem forall_roll (grid : ParticleGrid Float32) (moment : FrameContext)
    (hqueue : Build.queue c r = .ok queue) (honce : r.BindsOnce) (hkeeps : r.KeepsToAllocators) :
    ∀ e ∈ roll c grid moment queue,
      Action.BindsOnce e.actions ∧ ∀ a ∈ e.actions, a.KeepsToAllocators := fun _ he =>
  ⟨forall_enrol hqueue (P := fun g => Action.BindsOnce g.actions) honce he,
    forall_enrol hqueue (P := fun g => ∀ a ∈ g.actions, a.KeepsToAllocators) hkeeps he⟩

/-- **Where identifiers are unique.** In the command of any valid timeline,
however its build was polled, the names of both kinds are exactly those that a
standing registration has asked both of its allocators for. So the tables are
disjoint, and the vertex stage declares each name once, exactly if no standing
registration does. -/
theorem identifiers_apart_iff (patient : Bool) (grid : ParticleGrid Float32)
    (moment : FrameContext) (hqueue : Build.queue c r = .ok queue) (honce : r.BindsOnce)
    (hkeeps : r.KeepsToAllocators) {left : Build} (hleft : Left (start c grid moment queue) left)
    {command : DrawCommand} (hfinished : (left.advance patient).outcome = .finished command) :
    Named (roll c grid moment queue) command
        (source c grid (roll c grid moment queue) .vertex) ∧
      (r.BindsApart →
        ∀ name ∈ Table.names command.uniforms, name ∉ Table.names command.attributes) := by
  have hroll := forall_roll grid moment hqueue honce hkeeps
  have honce' : ∀ e ∈ roll c grid moment queue, Action.BindsOnce e.actions :=
    fun e he => (hroll e he).1
  obtain rfl := hleft.finished hfinished
  have hnamed := named_ofRoll honce' fun e he => (hroll e he).2
  refine ⟨hnamed, fun hapart => hnamed.disjoint.2 fun e he _ => ?_⟩
  exact forall_enrol hqueue (P := fun g => Action.BindsApart g.actions) hapart he

theorem identifiers_apart_iff_interrupted :
    ∃ queue command, Build.queue .interrupted (.builtIn []) = .ok queue ∧
      (start .interrupted .speck .first queue).finish.outcome = .finished command ∧
      Named (roll .interrupted .speck .first queue) command
        (source .interrupted .speck (roll .interrupted .speck .first queue) .vertex) ∧
      ∀ name ∈ Table.names command.uniforms, name ∉ Table.names command.attributes := by
  obtain ⟨queue, hqueue⟩ := queue_interrupted
  obtain ⟨command, hfinished⟩ := finished_builtIn hqueue
  obtain ⟨hnamed, hapart⟩ := identifiers_apart_iff true .speck .first hqueue
    (Registry.bindsOnce_builtInOf _) (Registry.keepsToAllocators_builtInOf _) .here hfinished
  exact ⟨queue, command, hqueue, hfinished, hnamed, hapart (Registry.bindsApart_builtInOf _)⟩

end Build

/-! ## One name for both kinds -/

/-- An effect that binds a uniform and an attribute of one name. -/
def Effect.twofold : Effect where
  id := "Twofold"
  displayName := "Twofold"
  fields := []
  register _ := .ofActions [.bindUniform "x" .float (.constant (.float 1)),
    .bindAttribute "x" .float ⟨#[1]⟩]

/-- A registry with that effect alone. -/
def Registry.twofold : Registry where
  effects := [.twofold]

def Queued.twofold : Queued where
  subject := { effectId := "Twofold", timeBegin := 0, timeEnd := 1 }
  effect := .twofold

/-- One instance of that effect over one particle. -/
def TimelineConfig.twofold : TimelineConfig where
  tracks := [[Queued.twofold.subject]]
  gridWidth := 1
  gridHeight := 1

namespace Build

theorem queue_twofold : Build.queue .twofold .twofold = .ok [.twofold] := by
  refine queue_eq_ok.2 ⟨by decide +kernel, rfl, fun q hq => ?_⟩
  obtain rfl := List.mem_singleton.1 hq
  rfl

/-- **The allocators of a registration do not see each other.** The effect
binds no name twice in either of them and declares nothing past them, and yet
one identifier is in both tables of its command. -/
theorem twofold_declared_twice :
    Registry.twofold.BindsOnce ∧ Registry.twofold.KeepsToAllocators ∧
      ∃ queue command, Build.queue .twofold .twofold = .ok queue ∧
        (start .twofold .speck .first queue).finish.outcome = .finished command ∧
        "x_0" ∈ Table.names command.uniforms ∧ "x_0" ∈ Table.names command.attributes := by
  have honce : Registry.twofold.BindsOnce := by
    intro e he q
    obtain rfl := List.mem_singleton.1 he
    exact (of_decide_eq_true rfl : Action.BindsOnce (Effect.twofold.register q).actions)
  have hkeeps : Registry.twofold.KeepsToAllocators := by
    intro e he q
    obtain rfl := List.mem_singleton.1 he
    exact of_decide_eq_true rfl
  have hroll := forall_roll .speck .first queue_twofold honce hkeeps
  have hends : ∀ e ∈ roll .twofold .speck .first [.twofold], e.Ends := by
    intro e he
    obtain rfl := List.mem_singleton.1 he
    exact nofun
  have hfaultless : ∀ e ∈ roll .twofold .speck .first [.twofold], e.registration.Faultless := by
    intro e he
    obtain rfl := List.mem_singleton.1 he
    exact Registration.faultless_of_appends (of_decide_eq_true rfl) (of_decide_eq_true rfl)
  have hfinished := congrArg Polled.outcome
    (start_finish (Stages.safe_of_faultless hfaultless) hends)
  have hnamed := named_ofRoll (fun e he => (hroll e he).1) fun e he => (hroll e he).2
  have hdoubles : ∃ e ∈ roll .twofold .speck .first [.twofold], e.Doubles "x_0" :=
    ⟨_, List.mem_singleton_self _, rfl, "x", List.mem_singleton_self _,
      List.mem_singleton_self _, rfl⟩
  obtain ⟨huniform, hattribute⟩ := (hnamed.both "x_0").2 hdoubles
  exact ⟨honce, hkeeps, _, _, queue_twofold, hfinished, huniform, hattribute⟩

end Build

end ParticleTimeline
