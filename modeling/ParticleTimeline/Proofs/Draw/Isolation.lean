import ParticleTimeline.Proofs.Draw.Command
import ParticleTimeline.Proofs.Timeline.Config
/-!
# Failures stay where they are

A registration that fails is as good as one that contributes nothing, but for
one comment behind its guard. Next to a build with failures stands the build
of the timeline in which every failed instance has made way for one that does
nothing (`TimelineConfig.withStandIns`). The roll of that build is the first
one with its failures replaced (`Build.roll_withStandIns`); a failed
enrolment and its stand-in leave the same in the tables, in the hooks and in
every section but the body, so the two commands can be told apart by the
comments alone (`Build.ofRoll_settled`).
-/

namespace ParticleTimeline

/-- An instance that does nothing in the place of another one. -/
def Queued.standIn (q : Queued) : Queued where
  subject := q.subject.standIn
  effect := .dummy

namespace Enrolment

variable {e : Enrolment}

/-- What is enrolled in the place of an instance that failed. -/
def standIn (e : Enrolment) : Enrolment where
  subject := e.subject.standIn
  number := e.number
  registration := .ofActions []

/-- The enrolment if it stands, else its stand-in. -/
def settled (e : Enrolment) : Enrolment := if e.stands then e else e.standIn

theorem settled_of_stands (h : e.stands = true) : e.settled = e := if_pos h

theorem settled_of_failed (h : e.stands = false) : e.settled = e.standIn := if_neg (by simp [h])

/-- The line that a failure leaves behind its guard. -/
def mark (e : Enrolment) : String :=
  if e.stands then "" else "// " ++ e.subject.effectId ++ " failed to register\n"

theorem standIn_actions (e : Enrolment) : e.standIn.actions = [] := rfl

@[simp] theorem standIn_stands (e : Enrolment) : e.standIn.stands = true := rfl

@[simp] theorem settled_stands (e : Enrolment) : e.settled.stands = true := by
  unfold settled
  split
  · assumption
  · rfl

theorem settled_uniforms (e : Enrolment) : e.settled.uniforms = e.uniforms := by
  cases hstands : e.stands with
  | true => rw [settled_of_stands hstands]
  | false =>
    have hnone : e.uniforms = [] := by simp [uniforms, hstands]
    rw [settled_of_failed hstands, hnone]
    rfl

theorem settled_attributes (e : Enrolment) : e.settled.attributes = e.attributes := by
  cases hstands : e.stands with
  | true => rw [settled_of_stands hstands]
  | false =>
    have hnone : e.attributes = [] := by simp [attributes, hstands]
    rw [settled_of_failed hstands, hnone]
    rfl

theorem settled_hooks (e : Enrolment) : e.settled.hooks = e.hooks := by
  cases hstands : e.stands with
  | true => rw [settled_of_stands hstands]
  | false =>
    have hnone : e.hooks = {} := by simp [hooks, hstands]
    rw [settled_of_failed hstands, hnone]
    rfl

@[simp] theorem settled_opening (e : Enrolment) : e.settled.opening = e.opening := by
  unfold settled
  split <;> rfl

theorem settled_ends (h : e.Ends) : e.settled.Ends := by
  unfold settled
  split
  · exact h
  · exact nofun

theorem settled_actions (h : ∀ a ∈ e.actions, a.Appends) :
    ∀ a ∈ e.settled.actions, a.Appends := by
  unfold settled
  split
  · exact h
  · exact nofun

theorem settled_bindsOnce (h : Action.BindsOnce e.actions) :
    Action.BindsOnce e.settled.actions := by
  unfold settled
  split
  · exact h
  · exact ⟨List.nodup_nil, List.nodup_nil⟩

theorem settled_failure? (e : Enrolment) : e.settled.failure? = none := by
  have h := e.settled_stands
  unfold stands at h
  unfold failure?
  split at h <;> simp_all

theorem standIn_inside (e : Enrolment) (stage : ShaderStage) :
    e.standIn.inside stage = .only .body closing := by
  have huniforms : e.standIn.uniforms = [] := rfl
  have hattributes : e.standIn.attributes = [] := rfl
  rw [inside, if_pos e.standIn_stands, standIn_actions, huniforms, hattributes]
  cases stage <;> simp

/-- The text of a failure is the comment and the line that closes the block. -/
theorem inside_of_failed (h : e.stands = false) (stage : ShaderStage) :
    e.inside stage = .only .body (e.mark ++ closing) := by
  have hmark : Build.failureMark e.subject = e.mark ++ "\x7d" := by
    simp only [Build.failureMark, mark, h, Bool.false_eq_true, if_false, String.append_assoc]
    rfl
  -- The mark does not end its last line itself.
  have hlast : ∀ text : String, ShaderSource.endLine (text ++ "\x7d") = text ++ closing := by
    intro text
    have : (text ++ "\x7d").toList.getLast? ≠ some '\n' := by simp
    rw [ShaderSource.endLine, if_neg this, String.append_assoc]
    rfl
  rw [inside, if_neg (by simp [h]), hmark, hlast]

/-- What an enrolment has in the body of a stage once its comment is left
out. -/
def body (e : Enrolment) (stage : ShaderStage) : String := (e.settled.inside stage).get .body

theorem body_of_failed (h : e.stands = false) (stage : ShaderStage) : e.body stage = closing := by
  rw [body, settled_of_failed h, standIn_inside]
  simp

theorem settled_block_body (e : Enrolment) (stage : ShaderStage) :
    (e.settled.block stage).body = e.opening ++ e.body stage := by
  change (e.settled.block stage).get .body = _
  simp [block, body]

/-- **The comment is all that a failure leaves**, and it stands right behind
the guard. -/
theorem block_body (e : Enrolment) (stage : ShaderStage) :
    (e.block stage).body = e.opening ++ e.mark ++ e.body stage := by
  change (e.block stage).get .body = _
  cases hstands : e.stands with
  | true => simp [block, body, settled_of_stands hstands, mark, hstands]
  | false => simp [block, body_of_failed hstands, inside_of_failed hstands, String.append_assoc]

/-- Outside the body a failure and its stand-in leave the same. -/
theorem settled_block {k : Section} (hk : k ≠ .body) (e : Enrolment) (stage : ShaderStage) :
    (e.settled.block stage).get k = (e.block stage).get k := by
  cases hstands : e.stands with
  | true => rw [settled_of_stands hstands]
  | false =>
    simp [settled_of_failed hstands, block, standIn_inside, inside_of_failed hstands, hk]

end Enrolment

namespace Build

variable {c : TimelineConfig} {r : Registry} {grid : ParticleGrid Float32}
variable {moment : FrameContext} {queue : List Queued} {rl : List Enrolment} {tracks : List Track}

/-! ## The roll with stand-ins -/

/-- Whether the registration at a place of a roll fails. -/
def failedAt (roll : List Enrolment) (k : Nat) : Bool := roll[k]?.any fun e => !e.stands

/-- The queue with stand-ins at some places. -/
def withStandIns (away : Nat → Bool) (queue : List Queued) : List Queued :=
  queue.mapIdx fun k q => if away k then q.standIn else q

theorem queue_withStandIns (hqueue : Build.queue c r = .ok queue)
    (hdummy : r.get "Dummy" = .ok .dummy) (away : Nat → Bool) :
    Build.queue (c.withStandIns away) r = .ok (withStandIns away queue) := by
  obtain ⟨hvalid, hsubjects, heffects⟩ := queue_eq_ok.1 hqueue
  refine queue_eq_ok.2 ⟨TimelineConfig.validate_withStandIns away hvalid, ?_, fun q hq => ?_⟩
  · rw [TimelineConfig.instances_withStandIns, ← hsubjects, withStandIns]
    apply List.ext_getElem?
    intro k
    simp only [List.getElem?_map, List.getElem?_mapIdx, Option.map_map]
    congr 1
    funext q
    simp only [Function.comp_apply]
    split <;> rfl
  · obtain ⟨k, hk, rfl⟩ := List.mem_mapIdx.1 hq
    split
    · exact hdummy
    · exact heffects _ (List.getElem_mem hk)

/-- **The roll with stand-ins is the roll with its failures settled**, if the
effects that stand do not mind which tracks they are shown. -/
theorem roll_withStandIns
    (hsame : ∀ k q, queue[k]? = some q → failedAt (roll c grid moment queue) k = false →
      q.effect.register ((sharedDraft { c with tracks } grid moment).request k q.subject)
        = q.effect.register ((sharedDraft c grid moment).request k q.subject)) :
    roll { c with tracks } grid moment
        (withStandIns (failedAt (roll c grid moment queue)) queue)
      = (roll c grid moment queue).map Enrolment.settled := by
  apply List.ext_getElem?
  intro k
  -- The number of a registration is its place, with stand-ins and without.
  have hk : (roll c grid moment queue)[k]?
      = queue[k]?.map ((sharedDraft c grid moment).enrolment k) := by
    rw [roll, Draft.getElem?_enrol, Nat.zero_add]
  rw [roll, Draft.getElem?_enrol, List.getElem?_map, hk, withStandIns, List.getElem?_mapIdx,
    Nat.zero_add]
  cases hq : queue[k]? with
  | none => rfl
  | some q =>
    have hstands : failedAt (roll c grid moment queue) k
        = !((sharedDraft c grid moment).enrolment k q).stands := by
      simp [failedAt, hk, hq]
    simp only [Option.map_some, Option.some.injEq]
    cases hfailed : failedAt (roll c grid moment queue) k with
    | true =>
      rw [Enrolment.settled_of_failed (by simpa [hfailed] using hstands)]
      rfl
    | false =>
      rw [Enrolment.settled_of_stands (by simpa [hfailed] using hstands)]
      simp only [Draft.enrolment, Bool.false_eq_true, if_false, hsame k q hq hfailed]

/-- One report for each failure, in the order of the roll. -/
theorem reports_eq (hends : ∀ e ∈ rl, e.Ends) :
    (rl.filterMap Enrolment.failure?).map some
      = (rl.filter (!·.stands)).map Enrolment.failure? := by
  induction rl with
  | nil => rfl
  | cons e rl ih =>
    have hrest := ih fun f hf => hends f (List.mem_cons_of_mem _ hf)
    cases hending : e.registration.ending with
    | succeeds => simpa [Enrolment.failure?, Enrolment.stands, hending] using hrest
    | fails error => simpa [Enrolment.failure?, Enrolment.stands, hending] using hrest
    | never => exact absurd hending (hends e List.mem_cons_self)

/-! ## Two commands -/

/-- What the text of a stage has before the blocks of a roll. -/
def head (c : TimelineConfig) (grid : ParticleGrid Float32) (rl : List Enrolment)
    (stage : ShaderStage) : String :=
  let sections := (source c grid rl stage).sections
  (if stage = .fragment then "precision highp float;\n" else "") ++ sections.attributes
    ++ sections.uniforms ++ sections.varyings ++ sections.globals ++ "void main() \x7b\n"
    ++ (Shell.before c stage).body

/-- What the text of a stage has behind the blocks of a roll. -/
def tail (c : TimelineConfig) (stage : ShaderStage) : String :=
  (Shell.behind c stage).body ++ "\x7d\n"

theorem source_body (hlocal : ∀ e ∈ rl, ∀ a ∈ e.actions, a.Local) (stage : ShaderStage) :
    (source c grid rl stage).sections.body = (Shell.before c stage).body
      ++ String.join (rl.map fun e => (e.block stage).body) ++ (Shell.behind c stage).body := by
  have hshared : (sharedTexts c grid stage).get .body = "" := by
    cases stage <;> simp [sharedTexts]
  change (source c grid rl stage).sections.get .body = (Shell.before c stage).get .body
    ++ String.join (rl.map fun e => (e.block stage).get .body) ++ (Shell.behind c stage).get .body
  simp [source_sections hlocal, hshared, Function.comp_def]

/-- The text of a stage, with the blocks in the middle. -/
theorem textOf_blocks (hlocal : ∀ e ∈ rl, ∀ a ∈ e.actions, a.Local) (stage : ShaderStage) :
    textOf (ofRoll c grid rl) stage = head c grid rl stage
      ++ String.join (rl.map fun e => (e.block stage).body) ++ tail c stage := by
  rw [textOf_ofRoll hlocal, source_body hlocal]
  simp only [head, tail, String.append_assoc]

theorem local_of_appends (happends : ∀ e ∈ rl, ∀ a ∈ e.actions, a.Appends) :
    ∀ e ∈ rl, ∀ a ∈ e.actions, a.Local := fun e he a ha => (happends e he a ha).local

theorem settled_appends (happends : ∀ e ∈ rl, ∀ a ∈ e.actions, a.Appends) :
    ∀ e ∈ rl.map Enrolment.settled, ∀ a ∈ e.actions, a.Appends := by
  intro e he
  obtain ⟨f, hf, rfl⟩ := List.mem_map.1 he
  exact f.settled_actions (happends f hf)

/-- Outside the bodies a roll leaves what it leaves with its failures settled. -/
theorem source_settled (happends : ∀ e ∈ rl, ∀ a ∈ e.actions, a.Appends) (tracks : List Track)
    {k : Section} (hk : k ≠ .body) (stage : ShaderStage) :
    (source { c with tracks } grid (rl.map Enrolment.settled) stage).sections.get k
      = (source c grid rl stage).sections.get k := by
  have hblocks : ((rl.map Enrolment.settled).map (·.block stage)).map (·.get k)
      = (rl.map (·.block stage)).map (·.get k) := by
    simp only [List.map_map]
    exact List.map_congr_left fun e _ => e.settled_block hk stage
  simp only [source_sections (local_of_appends happends),
    source_sections (local_of_appends (settled_appends happends)), Sections.get_append,
    Sections.get_concat, hblocks]
  cases stage <;> rfl

theorem head_settled (happends : ∀ e ∈ rl, ∀ a ∈ e.actions, a.Appends) (tracks : List Track)
    (stage : ShaderStage) :
    head { c with tracks } grid (rl.map Enrolment.settled) stage = head c grid rl stage := by
  have hbefore : Shell.before { c with tracks } stage = Shell.before c stage := by
    cases stage <;> rfl
  have hsections : ∀ k, k ≠ .body →
      (source { c with tracks } grid (rl.map Enrolment.settled) stage).sections.get k
        = (source c grid rl stage).sections.get k :=
    fun k hk => source_settled happends tracks hk stage
  have hattributes := hsections .attributes nofun
  have huniforms := hsections .uniforms nofun
  have hvaryings := hsections .varyings nofun
  have hglobals := hsections .globals nofun
  simp only [Sections.get] at hattributes huniforms hvaryings hglobals
  simp only [head, hbefore, hattributes, huniforms, hvaryings, hglobals]

theorem tail_settled (tracks : List Track) (stage : ShaderStage) :
    tail { c with tracks } stage = tail c stage := by
  cases stage <;> rfl

/-- Text that is put between others brings its own line breaks. -/
theorem count_join (before between behind : Enrolment → String) (rl : List Enrolment) :
    (String.join (rl.map fun e => before e ++ between e ++ behind e)).toList.count '\n'
      = (String.join (rl.map fun e => before e ++ behind e)).toList.count '\n'
        + (String.join (rl.map between)).toList.count '\n' := by
  induction rl with
  | nil => rfl
  | cons e rl ih =>
    simp only [List.map_cons, String.join_cons, String.toList_append, List.count_append] at ih ⊢
    omega

/-- Two commands that only the comments of failed registrations tell apart. -/
structure SameButMarks (roll : List Enrolment) (command clean : DrawCommand) : Prop where
  uniforms : clean.uniforms = command.uniforms
  attributes : clean.attributes = command.attributes
  count : clean.count = command.count
  blend : clean.blend = command.blend
  hooks : clean.hooks = command.hooks
  /-- A comment stands behind the guard that opens its block, and nothing else
  is different. -/
  texts : ∀ stage, ∃ head tail, ∃ rest : Enrolment → String,
    (∀ e, e.stands = false → rest e = "\x7d\n") ∧
    textOf command stage = head ++ String.join (roll.map fun e => e.subject.guard ++ "\n"
      ++ (if e.stands then "" else "// " ++ e.subject.effectId ++ " failed to register\n")
      ++ rest e) ++ tail ∧
    textOf clean stage
      = head ++ String.join (roll.map fun e => e.subject.guard ++ "\n" ++ rest e) ++ tail

/-- **The comments take lines of their own**, as many as they have breaks. -/
theorem SameButMarks.count_breaks {command clean : DrawCommand} (h : SameButMarks rl command clean)
    (stage : ShaderStage) : (textOf command stage).toList.count '\n'
      = (textOf clean stage).toList.count '\n'
        + (String.join (rl.map Enrolment.mark)).toList.count '\n' := by
  obtain ⟨head, tail, rest, -, htext, hclean⟩ := h.texts stage
  have hmarks := count_join (fun e => e.subject.guard ++ "\n") Enrolment.mark rest rl
  simp only [Enrolment.mark] at hmarks ⊢
  simp only [htext, hclean, String.toList_append, List.count_append, hmarks]
  omega

theorem ofRoll_settled (happends : ∀ e ∈ rl, ∀ a ∈ e.actions, a.Appends)
    (tracks : List Track) :
    SameButMarks rl (ofRoll c grid rl)
      (ofRoll { c with tracks } grid (rl.map Enrolment.settled)) where
  uniforms := by
    rw [ofRoll_uniforms, ofRoll_uniforms, List.flatMap_map]
    simp only [Enrolment.settled_uniforms]
    rfl
  attributes := by
    rw [ofRoll_attributes, ofRoll_attributes, List.flatMap_map]
    simp only [Enrolment.settled_attributes]
  count := rfl
  blend := rfl
  hooks := by
    simp only [ofRoll, List.map_map]
    congr 1
    exact List.map_congr_left fun e _ => e.settled_hooks
  texts := by
    intro stage
    refine ⟨head c grid rl stage, tail c stage, (·.body stage),
      fun e he => e.body_of_failed he stage, ?_, ?_⟩
    · simp only [textOf_blocks (local_of_appends happends), Enrolment.block_body,
        Enrolment.opening_eq, Enrolment.mark]
    · simp only [textOf_blocks (local_of_appends (settled_appends happends)),
        head_settled happends, tail_settled, List.map_map, Function.comp_def,
        Enrolment.settled_block_body, Enrolment.opening_eq]

/-- What the build with stand-ins comes to. -/
theorem finish_settled (tracks : List Track)
    (happends : ∀ e ∈ roll c grid moment queue, ∀ a ∈ e.actions, a.Appends)
    (honce : ∀ e ∈ roll c grid moment queue, Action.BindsOnce e.actions)
    (hends : ∀ e ∈ roll c grid moment queue, e.Ends)
    (hsame : ∀ k q, queue[k]? = some q → failedAt (roll c grid moment queue) k = false →
      q.effect.register ((sharedDraft { c with tracks } grid moment).request k q.subject)
        = q.effect.register ((sharedDraft c grid moment).request k q.subject)) :
    (start { c with tracks } grid moment
        (withStandIns (failedAt (roll c grid moment queue)) queue)).finish.outcome
      = .finished (ofRoll { c with tracks } grid
          ((roll c grid moment queue).map Enrolment.settled)) ∧
    (start { c with tracks } grid moment
        (withStandIns (failedAt (roll c grid moment queue)) queue)).finish.reports = [] := by
  have hroll := roll_withStandIns hsame
  have hfinish : (start { c with tracks } grid moment
      (withStandIns (failedAt (roll c grid moment queue)) queue)).finish = _ :=
    start_finish (by
      rw [hroll, Stages.safe_of_appends (settled_appends happends)]
      simp only [List.mem_map]
      rintro _ ⟨e, he, rfl⟩
      exact Enrolment.settled_bindsOnce (honce e he))
    (by
      rw [hroll]
      simp only [List.mem_map]
      rintro _ ⟨e, he, rfl⟩
      exact Enrolment.settled_ends (hends e he))
  rw [hfinish, hroll]
  refine ⟨rfl, ?_⟩
  simp only [List.filterMap_map]
  rw [List.filterMap_eq_nil_iff]
  exact fun e _ => e.settled_failure?

/-- **A failed registration is isolated.** Let the registrations of a build only
add. The build comes to a command just when they all end, any of them with a
failure, and bind no name twice. Then it reports each failure once and in build
order, and a build with stand-ins for the failed instances comes, without a
report, to a command that the marks alone tell apart from it. The second build
may show its effects other tracks, those with the stand-ins among them, as long
as the effects that stand do the same; with the tracks of the first build they
always do. -/
theorem failures_isolated (grid : ParticleGrid Float32) (moment : FrameContext)
    (tracks : List Track) (hqueue : Build.queue c r = .ok queue)
    (hdummy : r.get "Dummy" = .ok .dummy)
    (happends : ∀ e ∈ roll c grid moment queue, ∀ a ∈ e.actions, a.Appends)
    (hsame : ∀ k q, queue[k]? = some q → failedAt (roll c grid moment queue) k = false →
      q.effect.register ((sharedDraft { c with tracks } grid moment).request k q.subject)
        = q.effect.register ((sharedDraft c grid moment).request k q.subject)) :
    ((∃ command, (start c grid moment queue).finish.outcome = .finished command) ↔
      ∀ e ∈ roll c grid moment queue, e.Ends ∧ Action.BindsOnce e.actions) ∧
    ∀ command, (start c grid moment queue).finish.outcome = .finished command →
      ∃ clean replaced,
        Build.queue (c.withStandIns (failedAt (roll c grid moment queue))) r = .ok clean ∧
        (start { c with tracks } grid moment clean).finish.outcome = .finished replaced ∧
        SameButMarks (roll c grid moment queue) command replaced ∧
        (start c grid moment queue).finish.reports.map some
          = ((roll c grid moment queue).filter (!·.stands)).map Enrolment.failure? ∧
        (start { c with tracks } grid moment clean).finish.reports = [] := by
  -- Effects that only add can neither cut a character nor fail to be rolled back.
  have hsafe := Stages.safe_of_appends (s := sharedStages c grid) happends
  refine ⟨?_, fun command hfinished => ?_⟩
  · rw [finished_iff, hsafe]
    exact ⟨fun h e he => ⟨h.2 e he, h.1 e he⟩,
      fun h => ⟨fun e he => (h e he).2, fun e he => (h e he).1⟩⟩
  obtain ⟨honce, hends⟩ := finished_iff.1 ⟨command, hfinished⟩
  obtain ⟨hreplaced, hreports⟩ := finish_settled tracks happends (hsafe.1 honce) hends hsame
  obtain rfl := Left.finished .here hfinished
  refine ⟨_, _, queue_withStandIns hqueue hdummy _, hreplaced, ofRoll_settled happends tracks, ?_,
    hreports⟩
  rw [start_finish honce hends]
  exact reports_eq hends

theorem failures_isolated_interrupted :
    ∃ queue clean command replaced, Build.queue .interrupted (.builtIn []) = .ok queue ∧
      Build.queue (TimelineConfig.interrupted.withStandIns
        (failedAt (roll .interrupted .speck .first queue))) (.builtIn []) = .ok clean ∧
      (roll .interrupted .speck .first queue).map Enrolment.stands = [true, false, true] ∧
      (start .interrupted .speck .first queue).finish.outcome = .finished command ∧
      (start (TimelineConfig.interrupted.withStandIns
        (failedAt (roll .interrupted .speck .first queue))) .speck .first clean).finish.outcome
        = .finished replaced ∧
      SameButMarks (roll .interrupted .speck .first queue) command replaced := by
  obtain ⟨queue, hqueue, hstands⟩ := exists_queue (c := .interrupted) (r := .builtIn [])
    (P := fun queue => decide
      ((roll .interrupted .speck .first queue).map Enrolment.stands = [true, false, true]))
    (by decide +kernel)
  have hmember : ∀ (k : Nat) (q : Queued), queue[k]? = some q →
      q.effect ∈ (Registry.builtIn []).effects := fun k q hq =>
    Registry.mem_of_get ((queue_eq_ok.1 hqueue).2.2 q (List.mem_of_getElem? hq))
  have happends : ∀ e ∈ roll .interrupted .speck .first queue, ∀ a ∈ e.actions, a.Appends :=
    fun e he => forall_enrol hqueue (P := fun g => ∀ a ∈ g.actions, a.Appends)
      (Registry.appends_builtInOf (.memory [])) he
  obtain ⟨-, hisolated⟩ := failures_isolated .speck .first
    (TimelineConfig.interrupted.withStandIns
      (failedAt (roll .interrupted .speck .first queue))).tracks
    hqueue rfl happends fun k q hq _ => Registry.register_builtIn [] _ (hmember k q hq)
      ((sharedDraft .interrupted .speck .first).request k q.subject) _ _
  obtain ⟨command, hfinished⟩ := finished_builtIn hqueue
  obtain ⟨clean, replaced, hclean, hreplaced, hsame, -, -⟩ := hisolated command hfinished
  exact ⟨queue, clean, command, replaced, hqueue, hclean, of_decide_eq_true hstands, hfinished,
    hreplaced, hsame⟩

end Build

/-! ## Failures that show -/

/-- An effect that only adds, but looks at what else is on the tracks. -/
def Effect.curious : Effect where
  id := "Curious"
  displayName := "Curious"
  fields := []
  register q := .ofActions (if q.timeline.instances.any (·.effectId = "Failing") then
    [.bindUniform "seen" .float (.constant (.float 1))] else [])

/-- A registration that fails at once. -/
def Registration.giving : Registration where
  moves := []
  ending := .fails ⟨"Failing", "at once"⟩

/-- Effects that look at the tracks, fail, and do nothing. -/
def Registry.curious : Registry where
  effects := [.curious, .always "Failing" .giving, .always "a\nb" .giving, .dummy]

/-- An instance that fails, and has a line break in the id of its effect. -/
def Queued.broken : Queued where
  subject := .brief "a\nb"
  effect := .always "a\nb" .giving

/-- A timeline with one instance that looks at the tracks, and one that fails. -/
def TimelineConfig.observed : TimelineConfig where
  tracks := [[.brief "Curious", .brief "Failing"]]
  gridWidth := 1
  gridHeight := 1

namespace Registry

/-- What holds of the two registrations that add something, or nothing, holds of
all that these effects do. -/
theorem forall_curious {P : Registration → Prop} (hbinds : P (.ofActions
      [.bindUniform "seen" .float (.constant (.float 1))]))
    (hnothing : P (.ofActions [])) (hgives : P .giving) :
    ∀ e ∈ curious.effects, ∀ q : Request, P (e.register q) := by
  intro e he q
  simp only [curious, List.mem_cons, List.not_mem_nil, or_false] at he
  rcases he with rfl | rfl | rfl | rfl
  · simp only [Effect.curious]
    split
    · exact hbinds
    · exact hnothing
  · exact hgives
  · exact hgives
  · exact hnothing

theorem appends_curious : curious.Appends :=
  forall_curious (P := fun g => ∀ a ∈ g.actions, a.Appends) (by decide) nofun nofun

theorem bindsOnce_curious : curious.BindsOnce :=
  forall_curious (P := fun g => Action.BindsOnce g.actions) (by decide)
    ⟨List.nodup_nil, List.nodup_nil⟩ ⟨List.nodup_nil, List.nodup_nil⟩

theorem faultless_curious : curious.Faultless := appends_curious.faultless bindsOnce_curious

end Registry

namespace Build

/-- An effect that looks at the tracks binds one uniform less once the failed
instance has made way. -/
theorem observed_uniforms :
    ∃ queue clean command replaced, Build.queue .observed .curious = .ok queue ∧
      Build.queue (TimelineConfig.observed.withStandIns
        (failedAt (roll .observed .speck .first queue))) .curious = .ok clean ∧
      (start .observed .speck .first queue).finish.outcome = .finished command ∧
      (start (TimelineConfig.observed.withStandIns (failedAt (roll .observed .speck .first queue)))
        .speck .first clean).finish.outcome = .finished replaced ∧
      command.uniforms.length = 6 ∧ replaced.uniforms.length = 5 := by
  obtain ⟨queue, hqueue, hcomputed⟩ := exists_queue (c := .observed) (r := .curious)
    (P := fun queue =>
      let roll := Build.roll .observed .speck .first queue
      let c := TimelineConfig.observed.withStandIns (failedAt roll)
      decide ((∀ e ∈ roll, e.Ends) ∧ (ofRoll .observed .speck roll).uniforms.length = 6) &&
        (Build.queue c .curious).toOption.any fun clean =>
          let roll := Build.roll c .speck .first clean
          decide ((∀ e ∈ roll, e.Ends) ∧ (ofRoll c .speck roll).uniforms.length = 5))
    (by decide +kernel)
  obtain ⟨hfirst, hsecond⟩ := Bool.and_eq_true_iff.1 hcomputed
  obtain ⟨clean, hclean, hcounted⟩ := exists_queue hsecond
  obtain ⟨hends, hsix⟩ := of_decide_eq_true hfirst
  obtain ⟨hends', hfive⟩ := of_decide_eq_true hcounted
  have hfinish := start_finish
    (Stages.safe_of_faultless fun e he => forall_enrol hqueue Registry.faultless_curious he) hends
  have hfinish' := start_finish
    (Stages.safe_of_faultless fun e he => forall_enrol hclean Registry.faultless_curious he) hends'
  exact ⟨queue, clean, _, _, hqueue, hclean, congrArg Polled.outcome hfinish,
    congrArg Polled.outcome hfinish', hsix, hfive⟩

/-- The comment of a failure takes two lines when the id has a line break. -/
theorem broken_breaks :
    ∃ queue clean command replaced, Build.queue (.only "a\nb") .curious = .ok queue ∧
      Build.queue ((TimelineConfig.only "a\nb").withStandIns
        (failedAt (roll (.only "a\nb") .speck .first queue))) .curious = .ok clean ∧
      (start (.only "a\nb") .speck .first queue).finish.outcome = .finished command ∧
      (start ((TimelineConfig.only "a\nb").withStandIns
        (failedAt (roll (.only "a\nb") .speck .first queue))) .speck .first clean).finish.outcome
        = .finished replaced ∧
      command.vert.toList.count '\n' = replaced.vert.toList.count '\n' + 2 := by
  have hqueue : Build.queue (.only "a\nb") .curious = .ok [.broken] := queue_only rfl
  have hroll : ∀ e ∈ roll (.only "a\nb") .speck .first [.broken],
      e.Ends ∧ Action.BindsOnce e.actions ∧ ∀ a ∈ e.actions, a.Appends :=
    List.forall_mem_singleton.2 ⟨nofun, ⟨List.nodup_nil, List.nodup_nil⟩, nofun⟩
  have hends := fun e he => (hroll e he).1
  have honce := fun e he => (hroll e he).2.1
  have happends := fun e he => (hroll e he).2.2
  let tracks := ((TimelineConfig.only "a\nb").withStandIns
    (failedAt (roll (.only "a\nb") .speck .first [.broken]))).tracks
  have hfinish := start_finish (Stages.safe_of_appends happends |>.2 honce) hends
  obtain ⟨hfinish', -⟩ := finish_settled tracks happends honce hends fun k q hq _ => by
    obtain rfl := List.mem_singleton.1 (List.mem_of_getElem? hq)
    rfl
  have hmarks : SameButMarks _ (ofRoll (.only "a\nb") .speck _) _ :=
    ofRoll_settled happends tracks
  have hcount := hmarks.count_breaks .vertex
  have hbreaks : (String.join ((roll (.only "a\nb") .speck .first [.broken]).map
      Enrolment.mark)).toList.count '\n' = 2 := by
    decide +kernel
  rw [hbreaks] at hcount
  exact ⟨_, _, _, _, hqueue, queue_withStandIns hqueue rfl _, congrArg Polled.outcome hfinish,
    hfinish', hcount⟩

/-- Where a failure shows: an effect that only adds may look at the tracks, and
then binds something else when the failed instance has made way for another one;
and the comment of a failure takes two lines when the id has a line break. -/
theorem failures_not_isolated :
    Registry.curious.Appends ∧ Registry.curious.BindsOnce ∧
      Registry.curious.get "Dummy" = .ok .dummy ∧
    (∃ queue clean command replaced, Build.queue .observed .curious = .ok queue ∧
      Build.queue (TimelineConfig.observed.withStandIns
        (failedAt (roll .observed .speck .first queue))) .curious = .ok clean ∧
      (start .observed .speck .first queue).finish.outcome = .finished command ∧
      (start (TimelineConfig.observed.withStandIns (failedAt (roll .observed .speck .first queue)))
        .speck .first clean).finish.outcome = .finished replaced ∧
      command.uniforms.length = 6 ∧ replaced.uniforms.length = 5) ∧
    ∃ queue clean command replaced, Build.queue (.only "a\nb") .curious = .ok queue ∧
      Build.queue ((TimelineConfig.only "a\nb").withStandIns
        (failedAt (roll (.only "a\nb") .speck .first queue))) .curious = .ok clean ∧
      (start (.only "a\nb") .speck .first queue).finish.outcome = .finished command ∧
      (start ((TimelineConfig.only "a\nb").withStandIns
        (failedAt (roll (.only "a\nb") .speck .first queue))) .speck .first clean).finish.outcome
        = .finished replaced ∧
      command.vert.toList.count '\n' = replaced.vert.toList.count '\n' + 2 :=
  ⟨Registry.appends_curious, Registry.bindsOnce_curious, rfl, observed_uniforms, broken_breaks⟩

end Build

end ParticleTimeline
