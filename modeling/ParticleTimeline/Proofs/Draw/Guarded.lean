import ParticleTimeline.Proofs.Draw.Declarations
import ParticleTimeline.Proofs.Draw.Isolation
import ParticleTimeline.Proofs.Effect.Tidy
/-!
# Guarded sources

The main function of a stage is the prologue, one guarded block for every
instance in build order, and the epilogue. A block opens with the guard of
its instance and closes with the brace that the guard opened: what stands in
it is the instance's own text, or the comment of its failure, and both are
balanced when the effects are tidy (`Enrolment.balanced_statements`). So
every section of a source is balanced (`Build.balanced_source`), and with
them the compiled stages (`Build.sources_guarded`).
-/

namespace ParticleTimeline

/-! ## Guards -/

namespace EffectInstance

/-- Whatever the times are, infinite ones and such that are no number
included. -/
theorem braceless_condition (i : EffectInstance) : Braceless i.condition := by
  have hbegin := (FloatText.spelled_plain i.timeBegin).braceless
  have hend := (FloatText.spelled_plain i.timeEnd).braceless
  simp only [condition, braceless_append, hbegin, hend, and_true]
  and_intros <;> exact braceless_ofList (by decide)

/-- A guard opens one brace. -/
theorem depth_guard (i : EffectInstance) : Braces.depth 0 (i.guard ++ "\n").toList = some 1 := by
  have hbrace : Braces.depth 0 "\x7b".toList = some 1 := rfl
  have hline : Braces.depth 1 "\n".toList = some 1 := rfl
  rw [guard_eq, String.toList_append, String.toList_append, Braces.depth_append,
    Braces.depth_append, Braces.depth_of_braceless i.braceless_condition, Option.bind_some, hbrace,
    Option.bind_some, hline]

end EffectInstance

/-! ## Blocks -/

theorem Registry.id_of_get {r : Registry} {id : String} {e : Effect} (h : r.get id = .ok e) :
    e.id = id := by
  unfold get at h
  split at h
  · rename_i found hfind
    obtain rfl := Except.ok.inj h
    simpa using List.find?_some hfind
  · cases h

theorem Draft.map_subject_enrol (d : Draft) (n : Nat) (queue : List Queued) :
    (d.enrol n queue).map Enrolment.subject = queue.map Queued.subject := by
  induction queue generalizing n with
  | nil => rfl
  | cons q rest ih => exact congrArg (q.subject :: ·) (ih (n + 1))

namespace Action

/-- The lines that some actions add to the main function of a stage. A text
that does not end its last line itself has it ended. -/
def statements (stage : ShaderStage) (as : List Action) : String :=
  String.join (as.map fun
    | .addMain st text =>
      if st ≠ stage then "" else if text.toList.getLast? = some '\n' then text else text ++ "\n"
    | _ => "")

/-- What takes nothing back adds its lines to the body, and nothing else. -/
theorem texts_body {as : List Action} (happends : ∀ a ∈ as, a.Appends) (stage : ShaderStage) :
    (texts stage as).get .body = statements stage as := by
  rw [texts_of_appends happends, Sections.get_concat, List.map_map, statements]
  refine congrArg String.join (List.map_congr_left fun a _ => ?_)
  cases a with
  | addMain st text =>
    by_cases hstage : st = stage
    · simp [Action.text, hstage, ShaderSource.endLine]
    · simp [Action.text, hstage]
  | declare st q type name =>
    by_cases hstage : st = stage
    · cases q <;> simp [Action.text, hstage, Qualifier.place]
    · simp [Action.text, hstage]
  | addGlobal st text =>
    by_cases hstage : st = stage
    · simp [Action.text, hstage]
    · simp [Action.text, hstage]
  | mark | rollback | bindUniform | bindAttribute | onFrame | onTeardown => rfl

end Action

namespace Enrolment

variable {e : Enrolment}

theorem succeeds_of_stands (h : e.stands = true) : e.registration.ending = .succeeds := by
  unfold stands at h
  split at h
  · assumption
  · cases h
  · cases h

/-- What stands in the block of an enrolment: all that its registration adds
to the main function, or the comment of its failure. -/
def statements (e : Enrolment) (stage : ShaderStage) : String :=
  if e.stands then Action.statements stage e.actions
  else "// " ++ e.subject.effectId ++ " failed to register\n"

/-- The block of an enrolment in the main function. -/
def guarded (e : Enrolment) (stage : ShaderStage) : String :=
  e.subject.guard ++ "\n" ++ e.statements stage ++ "\x7d\n"

theorem block_body_eq_guarded (happends : ∀ a ∈ e.actions, a.Appends) (stage : ShaderStage) :
    (e.block stage).body = e.guarded stage := by
  have hclosing : closing = "\x7d\n" := rfl
  rw [block_body, opening_eq, guarded, statements, mark]
  cases hstands : e.stands with
  | true =>
    have hbody : e.body stage = Action.statements stage e.actions ++ closing := by
      rw [body, settled_of_stands hstands, ← Action.texts_body happends]
      cases stage <;> simp [inside, hstands]
    simp only [hbody, if_true, hclosing, String.append_empty, String.append_assoc]
  | false =>
    simp only [body_of_failed hstands, Bool.false_eq_true, if_false, hclosing, String.append_assoc]

theorem balanced_statements (happends : ∀ a ∈ e.actions, a.Appends)
    (h : e.stands = true → e.registration.Tidy) (hid : Braceless e.subject.effectId)
    (stage : ShaderStage) : Balanced (e.statements stage) := by
  unfold statements
  split
  · rw [← Action.texts_body happends]
    exact (h ‹_›).main stage
  · have hcomment : Braceless ("// " ++ e.subject.effectId ++ " failed to register\n") := by
      simp only [braceless_append, hid, and_true]
      and_intros <;> exact braceless_ofList (by decide)
    exact hcomment.balanced

/-- The lines that declare what a tidy registration has bound. -/
theorem balanced_declarations (h : e.stands = true → e.registration.Tidy) :
    Balanced (Allocator.declarations .uniform e.uniforms) ∧
      Balanced (Allocator.declarations .attr e.attributes) := by
  unfold uniforms attributes
  split
  · have hplain := (h ‹_›).plain
    exact ⟨(braceless_declarations
        (Action.braceless_entries Action.name?_of_uniform? hplain e.number) _).balanced,
      (braceless_declarations
        (Action.braceless_entries Action.name?_of_attribute? hplain e.number) _).balanced⟩
  · rw [Allocator.declarations_nil, Allocator.declarations_nil]
    decide

/-- **The block of a tidy registration is balanced in every section**: in the
body it closes the brace of its guard, and elsewhere it has none of its
own. -/
theorem balanced_block (happends : ∀ a ∈ e.actions, a.Appends)
    (h : e.stands = true → e.registration.Tidy) (hid : Braceless e.subject.effectId)
    (stage : ShaderStage) : (e.block stage).Balanced := by
  intro k
  by_cases hbody : k = .body
  · have hclosing : Braces.depth 1 "\x7d\n".toList = some 0 := Braces.depth_ofList (by decide)
    obtain rfl := hbody
    change Balanced (e.block stage).body
    rw [block_body_eq_guarded happends]
    exact (balanced_statements happends h hid stage).enclosed e.subject.depth_guard hclosing
  cases hstands : e.stands with
  | false =>
    rw [block_of_failed hstands hbody]
    decide
  | true =>
    obtain ⟨huniforms, hattributes⟩ := balanced_declarations h
    -- The guard and the closing line stand in the body alone.
    have hbodyOnly : ∀ text, Balanced ((Sections.only .body text).get k) := by
      intro text
      rw [Sections.get_only, if_neg hbody]
      decide
    have htexts := ((h hstands).balanced happends stage k).append (hbodyOnly closing)
    have hdeclared := Sections.balanced_only huniforms .uniforms k
    simp only [block, inside, if_pos hstands, Sections.get_append]
    refine (hbodyOnly _).append ((htexts.append hdeclared).append ?_)
    split
    · exact Sections.balanced_only hattributes .attributes k
    · exact Sections.balanced_blank k

end Enrolment

/-! ## The shell -/

namespace Shell

theorem balanced_lines {ls : List String} (h : ∀ l ∈ ls, Balanced l) : Balanced (lines ls) := by
  have hbreak : Balanced "\n" := by decide
  unfold lines
  induction ls with
  | nil =>
    rw [String.intercalate_nil]
    decide
  | cons l ls ih =>
    have hrest := ih fun l' hl' => h l' (List.mem_cons_of_mem _ hl')
    cases ls with
    | nil =>
      rw [String.intercalate_singleton]
      exact h l List.mem_cons_self
    | cons l' ls =>
      rw [String.intercalate_cons_cons]
      exact ((h l List.mem_cons_self).append hbreak).append hrest

theorem balanced_before (c : TimelineConfig) (stage : ShaderStage) : (before c stage).Balanced := by
  have hcolor : Balanced (ShaderSource.declaration .varying .vec3 "v_color") :=
    (braceless_declaration (by decide) _ _).balanced
  cases stage with
  | vertex =>
    have haspect : Braceless
        ("initialPosition.x *= " ++ FloatText.literal (Binary.widen (gridAspect c)) ++ ";") := by
      simp only [braceless_append, (FloatText.spelled_literal _).braceless, and_true]
      and_intros <;> exact braceless_ofList (by decide)
    refine (Sections.balanced_only hcolor _).append
      (Sections.balanced_only (balanced_endLine.2 (balanced_lines ?_)) _)
    simp only [List.forall_mem_cons, List.not_mem_nil, false_imp_iff, implies_true, and_true]
    refine ⟨?_, haspect.balanced, ?_⟩
    · exact (braceless_ofList (by decide)).balanced
    · and_intros <;> exact (braceless_ofList (by decide)).balanced
  | fragment =>
    have hread : Braceless "vec3 color = v_color;" := braceless_ofList (by decide)
    exact (Sections.balanced_only hcolor _).append
      (Sections.balanced_only (balanced_endLine.2 hread.balanced) _)

/-- Two of the three tests open a brace, and close it in the same line. -/
theorem balanced_shapeTest (shape : ParticleShape) : Balanced (shapeTest shape) := by
  cases shape with
  | circle | square | triangle =>
    refine balanced_lines ?_
    simp only [List.forall_mem_cons, List.not_mem_nil, false_imp_iff, implies_true, and_true]
    and_intros <;> exact balanced_iff.2 (Braces.depth_ofList (by decide))

theorem balanced_behind (c : TimelineConfig) (stage : ShaderStage) : (behind c stage).Balanced := by
  cases stage with
  | vertex =>
    refine Sections.balanced_only (balanced_endLine.2 (balanced_lines ?_)) _
    simp only [List.forall_mem_cons, List.not_mem_nil, false_imp_iff, implies_true, and_true]
    and_intros <;> exact (braceless_ofList (by decide)).balanced
  | fragment =>
    have halpha : Braceless
        ("float alpha = " ++ (if c.fading then "fade" else "1.0") ++ ";") := by
      have hvalue : Braceless (if c.fading then "fade" else "1.0") := by split <;> decide
      simp only [braceless_append, hvalue, and_true]
      and_intros <;> exact braceless_ofList (by decide)
    have houtput : Braceless (output c.overlap) := by
      cases c.overlap with
      | alpha | add | overwrite => exact braceless_ofList (by decide)
    exact ((Sections.balanced_only (balanced_endLine.2 (balanced_shapeTest c.shape)) _).append
      (Sections.balanced_only (balanced_endLine.2 halpha.balanced) _)).append
      (Sections.balanced_only (balanced_endLine.2 houtput.balanced) _)

end Shell

namespace Build

variable {c : TimelineConfig} {grid : ParticleGrid Float32} {moment : FrameContext}
variable {r : Registry} {queue : List Queued} {rl : List Enrolment} {command : DrawCommand}

theorem balanced_sharedTexts (c : TimelineConfig) (grid : ParticleGrid Float32)
    (stage : ShaderStage) : (sharedTexts c grid stage).Balanced := by
  obtain ⟨hunames, hanames⟩ := names_shared c grid
  have huniforms : Balanced (Allocator.declarations .uniform (sharedUniforms c).entries) := by
    refine (braceless_declarations ?_ _).balanced
    rw [hunames]
    decide
  have hattributes : Balanced (Allocator.declarations .attr (sharedAttributes grid).entries) := by
    refine (braceless_declarations ?_ _).balanced
    rw [hanames]
    decide
  cases stage with
  | vertex =>
    exact (Sections.balanced_only huniforms _).append (Sections.balanced_only hattributes _)
  | fragment => exact Sections.balanced_only huniforms _

/-- **A roll of balanced blocks makes balanced sources.** -/
theorem balanced_source (hlocal : ∀ e ∈ rl, ∀ a ∈ e.actions, a.Local)
    (h : ∀ e ∈ rl, ∀ stage, (e.block stage).Balanced) (stage : ShaderStage) :
    (source c grid rl stage).sections.Balanced := by
  have hblocks : (Sections.concat (rl.map (·.block stage))).Balanced := by
    refine Sections.balanced_concat fun t ht => ?_
    obtain ⟨e, he, rfl⟩ := List.mem_map.1 ht
    exact h e he stage
  rw [source_sections hlocal]
  exact (((balanced_sharedTexts c grid stage).append (Shell.balanced_before c stage)).append
    hblocks).append (Shell.balanced_behind c stage)

theorem source_mainBody (happends : ∀ e ∈ rl, ∀ a ∈ e.actions, a.Appends) (stage : ShaderStage) :
    (source c grid rl stage).sections.body = ((Shell.prologue c .empty).get stage).mainBody
      ++ String.join (rl.map (·.guarded stage))
      ++ ((Shell.epilogue c .empty).get stage).mainBody := by
  have hprologue :
      ((Shell.prologue c .empty).get stage).mainBody = (Shell.before c stage).body := by
    rw [Shell.prologue_eq_extend]
    cases stage <;> exact String.empty_append
  have hepilogue :
      ((Shell.epilogue c .empty).get stage).mainBody = (Shell.behind c stage).body := by
    rw [Shell.epilogue_eq_extend]
    cases stage <;> exact String.empty_append
  have hguarded : rl.map (fun e => (e.block stage).body) = rl.map (·.guarded stage) :=
    List.map_congr_left fun e he => Enrolment.block_body_eq_guarded (happends e he) stage
  rw [source_body (local_of_appends happends), hprologue, hepilogue, hguarded]

/-! ## Commands -/

/-- The sources of a command are guarded: each stage is balanced, and its main
function has a block of its own for every instance. -/
structure Guarded (c : TimelineConfig) (grid : ParticleGrid Float32) (roll : List Enrolment)
    (command : DrawCommand) : Prop where
  /-- Track by track, each from front to back. -/
  instances : roll.map Enrolment.subject = c.tracks.flatten
  balanced : ∀ stage, Balanced (textOf command stage)
  /-- A stage is its declarations and a main function of the prologue, the
  blocks and the epilogue. -/
  text : ∀ stage, textOf command stage
    = (if stage = .fragment then "precision highp float;\n" else "")
    ++ (source c grid roll stage).sections.attributes
    ++ (source c grid roll stage).sections.uniforms
    ++ (source c grid roll stage).sections.varyings
    ++ (source c grid roll stage).sections.globals ++ "void main() \x7b\n"
    ++ ((Shell.prologue c .empty).get stage).mainBody
    ++ String.join (roll.map fun e => e.subject.guard ++ "\n" ++ e.statements stage ++ "\x7d\n")
    ++ ((Shell.epilogue c .empty).get stage).mainBody ++ "\x7d\n"
  guards : ∀ e ∈ roll, e.subject.guard = "if (" ++ FloatText.plain e.subject.timeBegin
    ++ " <= globalTime && globalTime <= " ++ FloatText.plain e.subject.timeEnd ++ ") \x7b"
  /-- The brace at the end of a block is the one that closes its guard: the
  guard opens no other, and what stands between them is balanced. -/
  blocks : ∀ e ∈ roll, Braces.depth 0 (e.subject.guard ++ "\n").toList = some 1 ∧
    ∀ stage, Balanced (e.statements stage)
  /-- A failure leaves its comment alone, in one line. -/
  failed : ∀ e ∈ roll, e.stands = false → '\n' ∉ e.subject.effectId.toList ∧
    ∀ stage, e.statements stage = "// " ++ e.subject.effectId ++ " failed to register\n"

theorem ofRoll_guarded (hqueue : Build.queue c r = .ok queue) (htidy : r.Tidy) :
    Guarded c grid (roll c grid moment queue) (ofRoll c grid (roll c grid moment queue)) := by
  obtain ⟨-, hsubjects, heffects⟩ := queue_eq_ok.1 hqueue
  have happends : ∀ e ∈ roll c grid moment queue, ∀ a ∈ e.actions, a.Appends := fun e he =>
    forall_enrol hqueue (P := fun g => ∀ a ∈ g.actions, a.Appends) htidy.appends he
  have hregistrations : ∀ e ∈ roll c grid moment queue, e.stands = true → e.registration.Tidy :=
    fun e he hstands =>
      forall_enrol hqueue (P := fun g => g.ending = .succeeds → g.Tidy) htidy.registrations he
        (Enrolment.succeeds_of_stands hstands)
  have hids : ∀ e ∈ roll c grid moment queue,
      Braceless e.subject.effectId ∧ '\n' ∉ e.subject.effectId.toList := by
    intro e he
    -- An instance has the id that its effect was found under.
    obtain ⟨q, hq, hsubject, -⟩ := Draft.mem_enrol he
    have hget := heffects q hq
    rw [hsubject, ← Registry.id_of_get hget]
    exact htidy.ids _ (Registry.mem_of_get hget)
  have hblocks : ∀ e ∈ roll c grid moment queue, ∀ stage, (e.block stage).Balanced :=
    fun e he => e.balanced_block (happends e he) (hregistrations e he) (hids e he).1
  have hlocal := local_of_appends happends
  have htext := @textOf_ofRoll c grid _ hlocal
  exact {
    instances := (Draft.map_subject_enrol _ _ _).trans hsubjects
    balanced := fun stage => by
      rw [textOf_eq_compile]
      exact ShaderSource.balanced_compile (balanced_source hlocal hblocks stage)
    text := fun stage => by
      simp only [htext stage, source_mainBody happends, Enrolment.guarded, String.append_assoc]
    guards := fun e _ => by
      rw [EffectInstance.guard_eq, EffectInstance.condition, String.append_assoc]
      rfl
    blocks := fun e he => ⟨e.subject.depth_guard,
      e.balanced_statements (happends e he) (hregistrations e he) (hids e he).1⟩
    failed := fun e he hfailed => ⟨(hids e he).2, fun stage => by
      rw [Enrolment.statements, if_neg (by simp [hfailed])]⟩ }

end Build

end ParticleTimeline
