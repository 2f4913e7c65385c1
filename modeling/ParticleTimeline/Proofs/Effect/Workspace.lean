import ParticleTimeline.Effect.Registration
import ParticleTimeline.Proofs.Glsl.Growth
/-!
# What actions do to the sources

Adding to a source puts text behind one of its sections, and rolling it back
takes text away again. Actions that roll a source back only to marks of their
own (`Action.Local`) cannot tell what it began with: they make of any sources
what they make of sources without a line, behind what was there before
(`Workspace.stages_after`), and they fault over any sources or over none
(`Workspace.faultless_new`). What they come to is therefore a text for every
section (`Action.texts`). If they roll nothing back, that is the text of one
action after the other, and nothing faults (`Action.texts_of_appends`).
-/

namespace ParticleTimeline

namespace Action

/-- The text that an action puts behind the sections of a stage. -/
def text (stage : ShaderStage) : Action → Sections String
  | .declare st q type name =>
    if st = stage then .only q.place (ShaderSource.declaration q type name) else .blank
  | .addGlobal st text =>
    if st = stage then .only .globals (ShaderSource.endLine text) else .blank
  | .addMain st text => if st = stage then .only .body (ShaderSource.endLine text) else .blank
  | .mark _ | .rollback .. | .bindUniform .. | .bindAttribute .. | .onFrame _ | .onTeardown _ =>
    .blank

/-- An action that takes nothing back. -/
def Appends : Action → Prop
  | .rollback .. => False
  | _ => True

/-- An action that rolls a source back, if at all, to a mark that the same
registration has made in it. -/
def Local : Action → Prop
  | .rollback stage (.own other _) => other = stage
  | .rollback _ (.foreign _) => False
  | _ => True

/-- An action that leaves the declarations of uniforms and attributes to the
allocators: it makes none past them, and takes none back that was there before
its registration. -/
def KeepsToAllocators : Action → Prop
  | .declare _ q _ _ => q = .varying
  | a => a.Local

instance : DecidablePred Appends
  | .rollback .. => isFalse id
  | .declare .. | .addGlobal .. | .addMain .. | .mark _ | .bindUniform .. | .bindAttribute ..
  | .onFrame _ | .onTeardown _ => isTrue trivial

instance : DecidablePred Local
  | .rollback stage (.own other _) => inferInstanceAs (Decidable (other = stage))
  | .rollback _ (.foreign _) => isFalse id
  | .declare .. | .addGlobal .. | .addMain .. | .mark _ | .bindUniform .. | .bindAttribute ..
  | .onFrame _ | .onTeardown _ => isTrue trivial

instance : DecidablePred KeepsToAllocators
  | .declare _ q _ _ => inferInstanceAs (Decidable (q = .varying))
  | .rollback stage target => inferInstanceAs (Decidable (Local (.rollback stage target)))
  | .addGlobal .. | .addMain .. | .mark _ | .bindUniform .. | .bindAttribute .. | .onFrame _
  | .onTeardown _ => isTrue trivial

variable {a : Action}

theorem Appends.local (h : a.Appends) : a.Local := by
  cases a with
  | rollback => exact h.elim
  | _ => trivial

theorem KeepsToAllocators.local (h : a.KeepsToAllocators) : a.Local := by
  cases a with
  | rollback => exact h
  | _ => trivial

end Action

namespace Workspace

variable {w : Workspace} {a : Action} {as bs : List Action}

/-- Sources without a mark. -/
def new (stages : Stages) : Workspace where
  stages

/-! ## Many actions -/

/-- What some actions do to the sources, one after the other. -/
def after (w : Workspace) (as : List Action) : Workspace := as.foldl (fun w a => (w.act a).1) w

/-- No source is cut inside a character. -/
def Faultless : Workspace → List Action → Prop
  | _, [] => True
  | w, a :: as => (w.act a).2 = none ∧ Faultless (w.act a).1 as

instance decidableFaultless : (w : Workspace) → (as : List Action) → Decidable (w.Faultless as)
  | _, [] => isTrue trivial
  | w, a :: as =>
    have := decidableFaultless (w.act a).1 as
    inferInstanceAs (Decidable ((w.act a).2 = none ∧ Faultless (w.act a).1 as))

@[simp] theorem after_nil (w : Workspace) : w.after [] = w := rfl

@[simp] theorem after_cons (w : Workspace) (a : Action) (as : List Action) :
    w.after (a :: as) = (w.act a).1.after as := rfl

theorem after_append (w : Workspace) (as bs : List Action) :
    w.after (as ++ bs) = (w.after as).after bs := List.foldl_append

theorem faultless_append : w.Faultless (as ++ bs) ↔ w.Faultless as ∧ (w.after as).Faultless bs := by
  induction as generalizing w with
  | nil => exact (true_and _).symm ▸ Iff.rfl
  | cons a as ih => simp only [List.cons_append, Faultless, ih, after_cons, and_assoc]

/-- The only fault is a cut inside a character. -/
theorem eq_splitCharacter_of_act {fault : Fault} (h : (w.act a).2 = some fault) :
    fault = .splitCharacter := by
  cases a with
  | rollback stage target =>
    simp only [act] at h
    split at h
    · exact ShaderSource.eq_splitCharacter_of_rollback h
    · cases h
  | _ => cases h

/-! ## Other sources -/

/-- The sources of a workspace behind others. -/
def behind (w : Workspace) (base : Stages) : Workspace where
  stages := base.extend w.stages.vertex.sections w.stages.fragment.sections
  marks := w.marks.map fun m => (m.1, m.2.behind (base.get m.1).sections)

theorem behind_get (w : Workspace) (base : Stages) (stage : ShaderStage) :
    (w.behind base).stages.get stage = (base.get stage).extend (w.stages.get stage).sections := by
  cases stage <;> rfl

/-- Changing one source behind others, and then putting it there. -/
theorem behind_change {f g : ShaderSource → ShaderSource} {base : Stages} {stage : ShaderStage}
    (h : f ((base.get stage).extend (w.stages.get stage).sections)
      = (base.get stage).extend (g (w.stages.get stage)).sections) :
    { w.behind base with stages := (w.behind base).stages.change stage f }
      = ({ w with stages := w.stages.change stage g } : Workspace).behind base := by
  cases stage with
  | vertex => exact congrArg (fun v => { w.behind base with stages.vertex := v }) h
  | fragment => exact congrArg (fun v => { w.behind base with stages.fragment := v }) h

/-- A mark of one's own is as much further on. -/
theorem find?_behind (w : Workspace) (base : Stages) (stage : ShaderStage) (number : Nat) :
    (w.behind base).find? (.own stage number)
      = (w.find? (.own stage number)).map (·.behind (base.get stage).sections) := by
  have hfilter : (w.behind base).marks.filter (·.1 = stage)
      = (w.marks.filter (·.1 = stage)).map
          fun m => (stage, m.2.behind (base.get stage).sections) := by
    simp only [behind, List.filter_map]
    refine List.map_congr_left fun m hm => ?_
    obtain ⟨-, hstage⟩ := List.mem_filter.1 hm
    obtain rfl := of_decide_eq_true hstage
    rfl
  simp only [find?, hfilter, List.getElem?_map, Option.map_map]
  rfl

/-- **An action of one's own** does to the sources behind others what it does to
them alone. -/
theorem act_behind (hlocal : a.Local) (w : Workspace) (base : Stages) :
    (w.behind base).act a = ((w.act a).1.behind base, (w.act a).2) := by
  cases a with
  | declare stage q type name =>
    refine congrArg (·, none) (behind_change ?_)
    simp only [ShaderSource.declare_eq_extend, ShaderSource.extend_extend]
    rfl
  | addGlobal stage text =>
    refine congrArg (·, none) (behind_change ?_)
    simp only [ShaderSource.addGlobal_eq_extend, ShaderSource.extend_extend]
    rfl
  | addMain stage text =>
    refine congrArg (·, none) (behind_change ?_)
    simp only [ShaderSource.addMain_eq_extend, ShaderSource.extend_extend]
    rfl
  | mark stage =>
    have hmark : ((w.behind base).stages.get stage).mark
        = (w.stages.get stage).mark.behind (base.get stage).sections := by
      rw [behind_get, ShaderSource.mark_extend]
      rfl
    simp only [act, hmark]
    simp only [behind, List.map_append, List.map_cons, List.map_nil]
  | rollback stage target =>
    cases target with
    | foreign m => exact hlocal.elim
    | own other number =>
      obtain rfl : other = stage := hlocal
      simp only [act, find?_behind]
      cases w.find? (.own other number) with
      | none => rfl
      | some m =>
        -- A mark lies as much further on as the source does, so both cuts leave the same.
        have hroll := ShaderSource.rollback_extend (base.get other) (w.stages.get other) m
        simp only [Option.map_some, behind_get, hroll]
        refine congrArg (·, _) (behind_change (g := fun s => (s.rollback m).1) ?_)
        exact congrArg Prod.fst hroll
  | bindUniform | bindAttribute | onFrame | onTeardown => rfl

theorem after_behind (hlocal : ∀ a ∈ as, a.Local) (w : Workspace) (base : Stages) :
    (w.behind base).after as = (w.after as).behind base := by
  induction as generalizing w with
  | nil => rfl
  | cons a as ih =>
    have hrest := ih fun b hb => hlocal b (List.mem_cons_of_mem _ hb)
    rw [after_cons, act_behind (hlocal a List.mem_cons_self), hrest, after_cons]

theorem faultless_behind (hlocal : ∀ a ∈ as, a.Local) (w : Workspace) (base : Stages) :
    (w.behind base).Faultless as ↔ w.Faultless as := by
  induction as generalizing w with
  | nil => exact Iff.rfl
  | cons a as ih =>
    have hrest := ih fun b hb => hlocal b (List.mem_cons_of_mem _ hb)
    rw [Faultless, act_behind (hlocal a List.mem_cons_self), hrest, Faultless]

theorem new_eq_behind (s : Stages) : new s = (new .empty).behind s := by
  have hempty : s.extend Stages.empty.vertex.sections Stages.empty.fragment.sections = s :=
    Stages.extend_blank s
  rw [behind, new, new, hempty]
  rfl

end Workspace

/-! ## Actions of one's own -/

/-- What some actions make of a stage without a line. -/
def Action.texts (stage : ShaderStage) (as : List Action) : Sections String :=
  (((Workspace.new .empty).after as).stages.get stage).sections

@[simp] theorem Action.texts_nil (stage : ShaderStage) : texts stage [] = .blank := by
  cases stage <;> rfl

namespace Workspace

variable {w : Workspace} {a : Action} {as : List Action} {k : Section}

open ParticleTimeline.Action (texts)

/-- **Actions of one's own put their texts behind what there was.** -/
theorem stages_after (hlocal : ∀ a ∈ as, a.Local) (s : Stages) :
    ((new s).after as).stages = s.extend (texts .vertex as) (texts .fragment as) := by
  rw [new_eq_behind, after_behind hlocal]
  rfl

/-- **What they did is rolled back to the byte.** -/
theorem rollback_of_local (hlocal : ∀ a ∈ as, a.Local) (s : Stages) :
    ((new s).after as).stages.rollback s.marks = (s, none) := by
  rw [stages_after hlocal, Stages.rollback_marks_extend]

theorem faultless_new (hlocal : ∀ a ∈ as, a.Local) (s : Stages) :
    (new s).Faultless as ↔ (new .empty).Faultless as := by
  rw [new_eq_behind, faultless_behind hlocal]

/-! ## Actions that only add -/

theorem act_of_appends (h : a.Appends) (w : Workspace) :
    (w.act a).1.stages = w.stages.extend (a.text .vertex) (a.text .fragment) ∧
      (w.act a).2 = none := by
  have hchange : ∀ (stage : ShaderStage) (f : ShaderSource → ShaderSource) (t : Sections String),
      (∀ s : ShaderSource, f s = s.extend t) → w.stages.change stage f
        = w.stages.extend (if stage = .vertex then t else .blank)
          (if stage = .fragment then t else .blank) := by
    intro stage f t hf
    cases stage <;> simp [Stages.change, Stages.extend, hf]
  cases a with
  | declare stage q type name =>
    exact ⟨hchange stage _ _ fun s => ShaderSource.declare_eq_extend s q type name, rfl⟩
  | addGlobal stage text =>
    exact ⟨hchange stage _ _ fun s => ShaderSource.addGlobal_eq_extend s text, rfl⟩
  | addMain stage text =>
    exact ⟨hchange stage _ _ fun s => ShaderSource.addMain_eq_extend s text, rfl⟩
  | rollback => exact h.elim
  | mark | bindUniform | bindAttribute | onFrame | onTeardown =>
    exact ⟨(Stages.extend_blank _).symm, rfl⟩

theorem after_of_appends (h : ∀ a ∈ as, a.Appends) (w : Workspace) :
    (w.after as).stages = w.stages.extend (.concat (as.map (Action.text .vertex)))
        (.concat (as.map (Action.text .fragment))) ∧
      w.Faultless as := by
  induction as generalizing w with
  | nil => exact ⟨(Stages.extend_blank _).symm, trivial⟩
  | cons a as ih =>
    obtain ⟨hstages, hfault⟩ := act_of_appends (h a List.mem_cons_self) w
    obtain ⟨hrest, hfaultless⟩ := ih (fun b hb => h b (List.mem_cons_of_mem _ hb)) (w.act a).1
    refine ⟨?_, hfault, hfaultless⟩
    rw [after_cons, hrest, hstages, Stages.extend_extend]
    rfl

/-! ## Declarations of bindings -/

/-- A stage without a declaration of a uniform or an attribute. -/
def Undeclared (w : Workspace) (k : Section) : Prop :=
  ∀ stage, (w.stages.get stage).sections.get k = ""

theorem Undeclared.act (h : w.Undeclared k) (hk : k = .uniforms ∨ k = .attributes)
    (hkeeps : a.KeepsToAllocators) : (w.act a).1.Undeclared k := by
  have hchange : ∀ (st : ShaderStage) (f : ShaderSource → ShaderSource),
      (f (w.stages.get st)).sections.get k = "" →
      Undeclared { w with stages := w.stages.change st f } k := by
    intro st f hf stage
    have hold := h stage
    cases st <;> cases stage <;> first | exact hf | exact hold
  -- What is added goes into another section, and what is cut leaves an empty one empty.
  have hadd : ∀ (s : ShaderSource) (place : Section) (text : String), place ≠ k →
      (s.append place text).sections.get k = s.sections.get k := by
    intro s place text hplace
    simp [ShaderSource.append, Ne.symm hplace]
  cases a with
  | declare st q type name =>
    obtain rfl : q = .varying := hkeeps
    refine hchange st _ ((hadd _ _ _ ?_).trans (h st))
    rcases hk with rfl | rfl <;> decide
  | addGlobal st text =>
    refine hchange st _ ((hadd _ _ _ ?_).trans (h st))
    rcases hk with rfl | rfl <;> decide
  | addMain st text =>
    refine hchange st _ ((hadd _ _ _ ?_).trans (h st))
    rcases hk with rfl | rfl <;> decide
  | rollback st target =>
    simp only [Workspace.act]
    split
    · exact hchange st _ (ShaderSource.rollback_empty (h st) _)
    · exact h
  | mark | bindUniform | bindAttribute | onFrame | onTeardown => exact h

theorem Undeclared.after (h : w.Undeclared k) (hk : k = .uniforms ∨ k = .attributes)
    (hkeeps : ∀ a ∈ as, a.KeepsToAllocators) : (w.after as).Undeclared k := by
  induction as generalizing w with
  | nil => exact h
  | cons a as ih =>
    exact ih (h.act hk (hkeeps a List.mem_cons_self))
      fun b hb => hkeeps b (List.mem_cons_of_mem _ hb)

end Workspace

namespace Action

variable {as : List Action}

/-- **Actions that take nothing back** come to the text of one after the other. -/
theorem texts_of_appends (h : ∀ a ∈ as, a.Appends) (stage : ShaderStage) :
    texts stage as = .concat (as.map (text stage)) := by
  rw [texts, (Workspace.after_of_appends h _).1]
  cases stage <;> exact Sections.blank_append _

/-- Actions that keep to the allocators declare no uniform and no attribute. -/
theorem texts_of_keepsToAllocators (h : ∀ a ∈ as, a.KeepsToAllocators) {k : Section}
    (hk : k = .uniforms ∨ k = .attributes) (stage : ShaderStage) : (texts stage as).get k = "" := by
  have hblank : (Workspace.new .empty).Undeclared k := fun stage => by
    cases stage <;> exact Sections.get_blank k
  exact hblank.after hk h stage

end Action

end ParticleTimeline
