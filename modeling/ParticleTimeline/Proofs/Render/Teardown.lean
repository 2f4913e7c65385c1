import ParticleTimeline.Proofs.Draw.Hooks
import ParticleTimeline.Proofs.Render.Operation
/-!
# Every teardown hook runs once

From the time it is put down until it runs, a teardown hook is held by the
command on show or by one of the builds (`Renderer.held`). Whatever is done
to a renderer, the hooks that have run and those that are held are together
the hooks that were put down, each as often as it was: this is an account
that taking in a poll keeps (`Renderer.Settled.conserved`), and so every
operation (`Operation.Performed.conserved`) and every history
(`Operation.run_conserved`). Dropping the renderer runs all that is held
(`Renderer.count_torn_drop`), so in the end every hook has run exactly once.
-/

namespace ParticleTimeline

/-- The teardown hooks that the command on show holds. -/
def CommandSlot.held (s : CommandSlot) : List String :=
  s.active.toList.flatMap fun c => c.hooks.teardown

/-- The teardown hooks that some builds hold. -/
def heldBy (ps : List PendingBuild) : List String := ps.flatMap fun p => p.build.held

/-- The teardown hooks that some builds put down when they are polled. -/
def laidBy (ps : List PendingBuild) : List String := ps.flatMap fun p => p.build.laid false

@[simp] theorem heldBy_nil : heldBy [] = [] := rfl

@[simp] theorem heldBy_append (ps qs : List PendingBuild) :
    heldBy (ps ++ qs) = heldBy ps ++ heldBy qs := by
  simp [heldBy]

@[simp] theorem laidBy_append (ps qs : List PendingBuild) :
    laidBy (ps ++ qs) = laidBy ps ++ laidBy qs := by
  simp [laidBy]

/-- Giving up builds runs all that they hold. -/
theorem count_torn_abandon (ps : List PendingBuild) (tag : String) :
    (torn (ps.flatMap fun p => p.build.abandon)).count tag = (heldBy ps).count tag := by
  induction ps with
  | nil => rfl
  | cons p ps ih =>
    have hhead := p.build.torn_abandon tag
    simp only [heldBy, List.flatMap_cons, torn_append, List.count_append] at ih ⊢
    omega

namespace Renderer

/-- The teardown hooks that a renderer holds. -/
def held (r : Renderer) : List String := r.slot.held ++ heldBy r.builds

variable {patient : Bool} {r r' : Renderer} {p : PendingBuild} {left : Option PendingBuild}
variable {fit : Bool}

/-! ## Polls -/

/-- **Taking in a poll loses no hook and runs none twice.** -/
theorem Settled.conserved (h : Settled patient r p r' left fit) (hsound : p.build.Sound)
    (tag : String) :
    (torn r'.journal).count tag + r'.slot.held.count tag + (heldBy left.toList).count tag
      = (torn r.journal).count tag + r.slot.held.count tag + p.build.held.count tag
        + (p.build.laid patient).count tag := by
  have hbuild := hsound.conserved patient tag
  cases h with
  | waits houtcome =>
    simp only [houtcome, BuildOutcome.held] at hbuild
    simp only [heard, note, torn_append, List.count_append, heldBy, Option.toList_some,
      List.flatMap_cons, List.flatMap_nil, List.append_nil]
    omega
  | installed houtcome hcurrent =>
    simp only [houtcome, BuildOutcome.held] at hbuild
    -- The command before runs its hooks as it is replaced.
    have hactive : (torn (r.slot.active.toList.flatMap DrawCommand.tearDown)).count tag
        = r.slot.held.count tag := by
      cases hactive : r.slot.active <;> simp [CommandSlot.held, hactive, DrawCommand.tearDown]
    simp only [heard, note, torn_append, List.count_append, hactive, CommandSlot.held,
      Option.toList_some, Option.toList_none, List.flatMap_cons, List.flatMap_nil, List.append_nil,
      heldBy_nil, List.count_nil] at hactive ⊢
    omega
  | late houtcome hstale =>
    simp only [houtcome, BuildOutcome.held] at hbuild
    simp only [heard, note, torn_append, List.count_append, DrawCommand.tearDown, torn_tearDown,
      List.count_reverse, Option.toList_none, heldBy_nil, List.count_nil]
    omega

/-- The journal is only ever written on. -/
theorem Settled.journal_prefix (h : Settled patient r p r' left fit) :
    r.journal <+: r'.journal := by
  cases h with
  | waits houtcome => exact List.prefix_append _ _
  | installed houtcome hcurrent =>
    exact (List.prefix_append _ _).trans (List.prefix_append _ _)
  | late houtcome hstale => exact (List.prefix_append _ _).trans (List.prefix_append _ _)

theorem RetiredPolled.conserved {ps : List PendingBuild} (h : RetiredPolled ps r r')
    (hsound : ∀ p ∈ ps, p.build.Sound) (tag : String) :
    (torn r'.journal).count tag + r'.slot.held.count tag + (heldBy r'.retired).count tag
      = (torn r.journal).count tag + r.slot.held.count tag + (heldBy r.retired).count tag
        + (heldBy ps).count tag + (laidBy ps).count tag := by
  induction h with
  | nil r => simp [laidBy]
  | @cons p rest r r₁ r'' left fit h hrest ih =>
    have hkept : r₁.retired = r.retired := by rw [h.frame]
    have hhead := h.conserved (hsound p List.mem_cons_self) tag
    have htail := ih fun q hq => hsound q (List.mem_cons_of_mem _ hq)
    simp only [heldBy_append, List.count_append, hkept] at htail
    have hheld : (heldBy (p :: rest)).count tag
        = p.build.held.count tag + (heldBy rest).count tag := by
      simp [heldBy]
    have hlaid : (laidBy (p :: rest)).count tag
        = (p.build.laid false).count tag + (laidBy rest).count tag := by
      simp [laidBy]
    omega

theorem RetiredPolled.journal_prefix {ps : List PendingBuild} (h : RetiredPolled ps r r') :
    r.journal <+: r'.journal := by
  induction h with
  | nil r => exact List.prefix_rfl
  | cons h hrest ih => exact h.journal_prefix.trans ih

/-- **Polling all builds loses no hook and runs none twice.** -/
theorem BuildsPolled.conserved (h : r.BuildsPolled r') (hsound : r.Sound) (tag : String) :
    (torn r'.journal).count tag + r'.held.count tag
      = (torn r.journal).count tag + r.held.count tag + (laidBy r.builds).count tag := by
  have hretired : ∀ p ∈ r.retired, p.build.Sound :=
    fun p hp => hsound.builds p (List.mem_append_left _ hp)
  cases h with
  | idle h hidle =>
    have hsame : r.pending = none := by rw [← hidle, h.frame]
    have hpolled := h.conserved hretired tag
    simp only [heldBy_nil, List.count_nil] at hpolled
    simp only [held, builds, hidle, hsame, Option.toList_none, List.append_nil, List.count_append]
    omega
  | @pending p r₁ r₂ left fit h hpending hsettled =>
    have hsame : r.pending = some p := by rw [← hpending, h.frame]
    have hkept : r₂.retired = r₁.retired := by rw [hsettled.frame]
    have hbuild : p.build.Sound := hsound.builds p (List.mem_append_right _ (by simp [hsame]))
    have hpolled := h.conserved hretired tag
    have hlast := hsettled.conserved hbuild tag
    simp only [heldBy_nil, List.count_nil] at hpolled
    have hone : ∀ q : PendingBuild,
        heldBy [q] = q.build.held ∧ laidBy [q] = q.build.laid false := by
      intro q
      simp [heldBy, laidBy]
    simp only [held, builds, hsame, hkept, Option.toList_some, List.count_append, heldBy_append,
      laidBy_append, hone]
    omega

theorem BuildsPolled.journal_prefix (h : r.BuildsPolled r') : r.journal <+: r'.journal := by
  cases h with
  | idle h hidle => exact h.journal_prefix
  | pending h hpending hsettled => exact h.journal_prefix.trans hsettled.journal_prefix

/-- A build that has just been enlisted holds nothing. -/
theorem held_enlist (r : Renderer) (queue : List Queued) (tag : String) :
    (r.enlist queue).held.count tag = r.held.count tag := by
  have hnew : (Build.start r.timeline r.grid r.moment queue).held = [] := by
    rw [Build.start_eq]
    rfl
  simp only [held, builds, enlist, CommandSlot.begin, CommandSlot.held, Option.toList_some,
    heldBy_append, List.count_append]
  simp [heldBy, hnew]

/-- Frame hooks run no teardown hook. -/
theorem held_shown (r : Renderer) :
    r.shown.held = r.held ∧ torn r.shown.journal = torn r.journal := by
  rw [shown_eq]
  cases hactive : r.slot.active with
  | none => simp [held, builds, CommandSlot.runFrameHooks, hactive]
  | some c =>
    simp [held, builds, CommandSlot.runFrameHooks, CommandSlot.held, hactive,
      DrawCommand.runFrameHooks, HookList.runFrame, torn, HookEvent.torn?, Function.comp_def,
      List.filterMap_map]

end Renderer

/-! ## Operations and histories -/

namespace Operation

/-- The teardown hooks that registrations put down in an operation. -/
def laid (op : Operation) (r : Renderer) : List String :=
  match op.begun? r, op with
  | some (x, queue), _ => laidBy (x.enlist queue).builds
  | none, .frame _ => laidBy r.builds
  | none, .finishBuild => r.pending.toList.flatMap fun p => p.build.laid true
  | none, _ => []

/-- The teardown hooks that registrations put down in a history. -/
def laidAlong : List Operation → Renderer → List String
  | [], _ => []
  | op :: ops, r =>
    op.laid r ++ match op.perform r with
      | .ok r => laidAlong ops r
      | .error _ => []

variable {op : Operation} {ops : List Operation} {r r' : Renderer}

/-- **No operation loses a hook or runs one twice.** -/
theorem Performed.conserved (h : Performed op r r') (hsound : r.Sound) (tag : String) :
    (torn r'.journal).count tag + r'.held.count tag
      = (torn r.journal).count tag + r.held.count tag + (op.laid r).count tag := by
  cases h with
  | refused hstarts h => cases op <;> simp_all [laid, starts]
  | @built op r x r' queue hbegun hpolled =>
    have hx := (queue_of_begun hbegun).2
    have hjournal : (x.enlist queue).journal = r.journal := by rw [hx]; rfl
    have hheld : (x.enlist queue).held.count tag = r.held.count tag := by
      rw [Renderer.held_enlist, hx]
      rfl
    have hpolled' := hpolled.conserved (hsound.enlist hbegun) tag
    rw [hjournal, hheld] at hpolled'
    simpa only [laid, hbegun] using hpolled'
  | resized width height r =>
    rw [Renderer.resizeBuffers_eq]
    rfl
  | @framed now r r' hpolled =>
    have hticked : (r.ticked now).Sound := ⟨hsound.registry, hsound.builds⟩
    obtain ⟨hheld, hjournal⟩ := r'.held_shown
    rw [hheld, hjournal]
    exact hpolled.conserved hticked tag
  | idle h => simp [laid, begun?, h]
  | @finished r r' p left fit h hsettled =>
    have hbuild := hsound.builds p (List.mem_append_right _ (by simp [h]))
    -- The build under way is held until it ends, and its command from then on.
    have hsettled' := hsettled.conserved hbuild tag
    have hretired : r'.retired = r.retired := by rw [hsettled.frame]
    have hone : heldBy [p] = p.build.held := by simp [heldBy]
    simp only [Renderer.held, Renderer.builds, laid, begun?, h, hretired, hone, heldBy_append,
      List.count_append, Option.toList_some, List.flatMap_cons, List.flatMap_nil, List.append_nil]
    simp only at hsettled'
    omega
  | reported error r => rfl
  | clockChanged change r => rfl
  | effectsChanged registry r => rfl

theorem Performed.journal_prefix (h : Performed op r r') : r.journal <+: r'.journal := by
  cases h with
  | refused hstarts h => exact List.prefix_rfl
  | @built op r x r' queue hbegun hpolled =>
    have hx := (queue_of_begun hbegun).2
    have hjournal : (x.enlist queue).journal = r.journal := by rw [hx]; rfl
    exact hjournal ▸ hpolled.journal_prefix
  | resized width height r =>
    have hjournal : (r.resizeBuffers width height).1.journal = r.journal := by
      rw [Renderer.resizeBuffers_eq]
    exact hjournal ▸ List.prefix_rfl
  | @framed now r r' hpolled =>
    rw [Renderer.shown_eq]
    exact hpolled.journal_prefix.trans (List.prefix_append _ _)
  | idle h => exact List.prefix_rfl
  | finished h hsettled => exact hsettled.journal_prefix
  | reported error r => exact List.prefix_rfl
  | clockChanged change r => exact List.prefix_rfl
  | effectsChanged registry r => exact List.prefix_rfl

/-- **The account of a whole history.** -/
theorem run_conserved (hsound : r.Sound) (hops : ∀ op ∈ ops, op.Faultless)
    (hrun : run ops r = .ok r') (tag : String) :
    (torn r'.journal).count tag + r'.held.count tag
      = (torn r.journal).count tag + r.held.count tag + (laidAlong ops r).count tag := by
  induction ops generalizing r with
  | nil =>
    obtain rfl := Except.ok.inj hrun
    rfl
  | cons op ops ih =>
    rcases perform_of_sound op hsound with ⟨r₁, hperform, hperformed⟩ | ⟨crash, hperform, -⟩
    · have hlater := ih (hperformed.sound hsound (hops op List.mem_cons_self))
        (fun op' hop' => hops op' (List.mem_cons_of_mem _ hop'))
        (by simpa only [run, hperform] using hrun)
      have hnow := hperformed.conserved hsound tag
      simp only [laidAlong, hperform, List.count_append]
      omega
    · simp [run, hperform] at hrun

theorem run_journal_prefix (hsound : r.Sound) (hops : ∀ op ∈ ops, op.Faultless)
    (hrun : run ops r = .ok r') : r.journal <+: r'.journal := by
  induction ops generalizing r with
  | nil =>
    obtain rfl := Except.ok.inj hrun
    exact List.prefix_rfl
  | cons op ops ih =>
    rcases perform_of_sound op hsound with ⟨r₁, hperform, hperformed⟩ | ⟨crash, hperform, -⟩
    · exact hperformed.journal_prefix.trans
        (ih (hperformed.sound hsound (hops op List.mem_cons_self))
          (fun op' hop' => hops op' (List.mem_cons_of_mem _ hop'))
          (by simpa only [run, hperform] using hrun))
    · simp [run, hperform] at hrun

end Operation

namespace Renderer

open Operation (laid laidAlong run)

/-! ## From the beginning to the end -/

variable {device : Device} {registry : Registry} {timeline : TimelineConfig} {r : Renderer}

/-- The teardown hooks that registrations put down while a renderer is
created. -/
def laidAtFirst (device : Device) (registry : Registry) (timeline : TimelineConfig) :
    List String :=
  match prepare device registry timeline with
  | .ok p => Operation.rebuild.laid p
  | .error _ => []

/-- Dropping a renderer runs all that it holds. -/
theorem count_torn_drop (r : Renderer) (tag : String) :
    (torn r.drop).count tag = (torn r.journal).count tag + r.held.count tag := by
  -- Builds under way are given up, and the slot is cleared.
  have hbuilds := count_torn_abandon (r.pending.toList ++ r.retired) tag
  have hslot : (torn r.slot.clear.2).count tag = r.slot.held.count tag := by
    cases hactive : r.slot.active <;>
      simp [CommandSlot.clear, CommandSlot.held, hactive, DrawCommand.tearDown]
  simp only [heldBy_append, List.count_append] at hbuilds
  simp only [drop, held, builds, torn_append, heldBy_append, List.count_append, hslot]
  omega

theorem journal_prefix_drop (r : Renderer) : r.journal <+: r.drop :=
  (List.prefix_append _ _).trans (List.prefix_append _ _)

/-- A created renderer is sound, and its account is even. -/
theorem sound_of_create (hcreate : create device registry timeline = .ok (.ok r))
    (hfaultless : registry.Faultless) :
    r.Sound ∧ ∀ tag, (torn r.journal).count tag + r.held.count tag
      = (laidAtFirst device registry timeline).count tag := by
  obtain ⟨p, queue, hprepare, -, hperform⟩ := create_eq_ok hcreate
  have hp := (prepare_eq_ok hprepare).2.2
  have hsound : p.Sound := by
    rw [hp]
    exact ⟨hfaultless, by simp [builds]⟩
  rcases Operation.perform_of_sound .rebuild hsound with
    ⟨r₁, hperform₁, hperformed⟩ | ⟨crash, hperform₁, -⟩
  · obtain rfl : r₁ = r := by
      rw [hperform] at hperform₁
      exact (Except.ok.inj hperform₁).symm
    refine ⟨hperformed.sound hsound trivial, fun tag => ?_⟩
    have hconserved := hperformed.conserved hsound tag
    have hjournal : p.journal = [] := by rw [hp]
    have hheld : p.held = [] := by
      rw [hp]
      rfl
    rw [hjournal, hheld] at hconserved
    simpa [laidAtFirst, hprepare] using hconserved
  · rw [hperform] at hperform₁
    simp at hperform₁

/-- **Every teardown hook runs exactly once.** A renderer is created, a
history of operations follows, and the renderer is dropped. Then the teardown
hooks that have run are those that were put down by some registration, each
as often as it was put down; and at no earlier point has one run more often
than it had been put down by then. The history can only be cut short by
numbers that cannot be counted, or by waiting for a build that never ends. -/
theorem teardown_exactly_once (hcreate : create device registry timeline = .ok (.ok r))
    (hfaultless : registry.Faultless) {ops : List Operation} (hops : ∀ op ∈ ops, op.Faultless) :
    (∃ r', run ops r = .ok r' ∧
      (torn r'.drop).Perm (laidAtFirst device registry timeline ++ laidAlong ops r) ∧
      ∀ earlier later, ops = earlier ++ later → ∃ r₁, run earlier r = .ok r₁ ∧
        r₁.journal <+: r'.drop ∧ ∀ tag, (torn r₁.journal).count tag
          ≤ (laidAtFirst device registry timeline ++ laidAlong earlier r).count tag) ∨
    ∃ earlier op later r' crash, ops = earlier ++ op :: later ∧ run earlier r = .ok r' ∧
      run ops r = .error crash ∧ op.CrashesFor r' crash.fault := by
  obtain ⟨hsound, hfirst⟩ := sound_of_create hcreate hfaultless
  rcases Operation.run_of_sound hsound hops with ⟨r', hrun, -⟩ | hcrash
  · refine .inl ⟨r', hrun, ?_, fun earlier later hsplit => ?_⟩
    · rw [List.perm_iff_count]
      intro tag
      -- Nothing is held after the drop, so what was laid has been torn down.
      have hall := Operation.run_conserved hsound hops hrun tag
      have hbegan := hfirst tag
      have hdropped := r'.count_torn_drop tag
      simp only [List.count_append]
      omega
    · have hearlier : ∀ op ∈ earlier, op.Faultless :=
        fun op hop => hops op (hsplit ▸ List.mem_append_left _ hop)
      have hlater : ∀ op ∈ later, op.Faultless :=
        fun op hop => hops op (hsplit ▸ List.mem_append_right _ hop)
      rw [hsplit, Operation.run_append] at hrun
      rcases Operation.run_of_sound hsound hearlier with
        ⟨r₁, hmiddle, hsound₁⟩ | ⟨-, -, -, -, crash, -, -, hmiddle, -⟩
      · simp only [hmiddle] at hrun
        have hprefix := Operation.run_journal_prefix hsound₁ hlater hrun
        refine ⟨r₁, hmiddle, hprefix.trans r'.journal_prefix_drop, fun tag => ?_⟩
        have hsome := Operation.run_conserved hsound hearlier hmiddle tag
        have hbegan := hfirst tag
        simp only [List.count_append]
        omega
      · simp [hmiddle] at hrun
  · exact .inr hcrash

/-- The first build is superseded before it ends, and ends too late in the
frame that also ends the second; the third is still waiting at the drop. -/
theorem teardown_exactly_once_waiting :
    ∃ r r', create {} .waiting .waiting = .ok (.ok r) ∧
      run [.rebuild, .frame 0, .rebuild] r = .ok r' ∧
      (torn r'.drop).Perm ["early", "late", "early", "late", "early"] := by
  have hcomputed : ∃ r r', create {} .waiting .waiting = .ok (.ok r) ∧
      run [.rebuild, .frame 0, .rebuild] r = .ok r' ∧
      (laidAtFirst {} .waiting .waiting ++ laidAlong [.rebuild, .frame 0, .rebuild] r
        == ["early", "late", "early", "late", "early"]) = true :=
    exists_of_computed (by decide +kernel)
  obtain ⟨r, r', hcreate, hrun, hlaid⟩ := hcomputed
  have hops : ∀ op ∈ [Operation.rebuild, .frame 0, .rebuild], op.Faultless := by
    simp [Operation.Faultless]
  rcases teardown_exactly_once hcreate Registry.faultless_waiting hops with
    ⟨r₁, hrun₁, hperm, -⟩ | ⟨-, -, -, -, crash, -, -, hrun₁, -⟩
  · obtain rfl : r' = r₁ := Except.ok.inj (hrun.symm.trans hrun₁)
    rw [beq_iff_eq.1 hlaid] at hperm
    exact ⟨r, r', hcreate, hrun, hperm⟩
  · simp [hrun] at hrun₁

end Renderer

end ParticleTimeline
