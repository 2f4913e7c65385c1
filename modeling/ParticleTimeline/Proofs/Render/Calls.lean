import ParticleTimeline.Proofs.Draw.Frames
import ParticleTimeline.Proofs.Render.Rebuild
/-!
# Which hooks a frame calls

Every build is commissioned with a timeline, a grid, a moment and a queue,
and has the number of its commission as its generation. Beside a history
stand the commissions (`Operation.commissionsAlong`) and the frames with the
generation that each one showed (`Operation.showingsAlong`); they account for
the renderer (`Renderer.Accounted`): builds under way come from their
commissions, and the command on show is the one that its commission comes to,
with those of its frame hooks that have lasted through the frames that showed
it. So a frame calls the hooks of the generation that it shows, and nothing
else calls any (`Renderer.frame_hooks_exact`).
-/

namespace ParticleTimeline

/-! ## Commissions -/

/-- What a build was begun with. -/
structure Commission where
  timeline : TimelineConfig
  grid : ParticleGrid Float32
  moment : FrameContext
  queue : List Queued

namespace Commission

/-- The build, before its first registration. -/
def start (c : Commission) : Build := Build.start c.timeline c.grid c.moment c.queue

def roll (c : Commission) : List Enrolment := Build.roll c.timeline c.grid c.moment c.queue

/-- The command that the build comes to. -/
def command (c : Commission) : DrawCommand := Build.ofRoll c.timeline c.grid c.roll

/-- The frame hooks of the registrations that stand, in the order they were
put down. -/
def frameHooks (c : Commission) : List FrameHook :=
  (c.roll.filter Enrolment.stands).flatMap fun e => e.actions.filterMap Action.frameHook?

theorem frame_command (c : Commission) : c.command.hooks.frame = c.frameHooks := by
  have hhooks : ∀ es : List Enrolment, (es.map Enrolment.hooks).flatMap HookList.frame
      = (es.filter Enrolment.stands).flatMap fun e => e.actions.filterMap Action.frameHook? := by
    intro es
    induction es with
    | nil => rfl
    | cons e es ih =>
      cases hstands : e.stands with
      | true => simpa [Enrolment.hooks, hstands, Action.hooks] using ih
      | false => simpa [Enrolment.hooks, hstands] using ih
  exact hhooks c.roll

end Commission

/-- The commission of a generation. Generations count from one; before the
first one there is nothing. -/
def commissionOf (cs : List Commission) : (generation : Nat) → Option Commission
  | 0 => none
  | n + 1 => cs[n]?

theorem commissionOf_append {cs : List Commission} {generation : Nat} {c : Commission}
    (h : commissionOf cs generation = some c) (later : List Commission) :
    commissionOf (cs ++ later) generation = some c := by
  cases generation with
  | zero => cases h
  | succ n =>
    have hn : n < cs.length := (List.getElem?_eq_some_iff.1 h).1
    simpa only [commissionOf, List.getElem?_append_left hn] using h

theorem commissionOf_last (cs : List Commission) (c : Commission) :
    commissionOf (cs ++ [c]) (cs.length + 1) = some c := by
  simp [commissionOf]

/-! ## Showings -/

/-- A frame, and the generation of the command that it showed. -/
structure Showing where
  generation : Nat
  frame : FrameContext

/-- The frames that showed a generation. -/
def framesOf (generation : Nat) (ss : List Showing) : List FrameContext :=
  (ss.filter (·.generation = generation)).map Showing.frame

theorem framesOf_concat (generation : Nat) (ss : List Showing) (frame : FrameContext) :
    framesOf generation (ss ++ [⟨generation, frame⟩]) = framesOf generation ss ++ [frame] := by
  simp [framesOf]

/-- No frame has shown a generation that is still to be installed. -/
theorem framesOf_later {ss : List Showing} {installed generation : Nat}
    (h : ∀ s ∈ ss, s.generation ≤ installed) (hlater : installed < generation) :
    framesOf generation ss = [] := by
  rw [framesOf, List.map_eq_nil_iff, List.filter_eq_nil_iff]
  intro s hs
  have := h s hs
  simp only [decide_eq_true_eq]
  omega

/-- The hooks that a frame is to call which shows a generation: those of its
build that have lasted through the frames that have shown it. -/
def dueHooks (cs : List Commission) (ss : List Showing) (generation : Nat) : List FrameHook :=
  ((commissionOf cs generation).toList.flatMap Commission.frameHooks).filter
    (·.lasts (framesOf generation ss))

namespace Operation

/-- The commission that an operation gives, if it begins a build. -/
def commissions (op : Operation) (r : Renderer) : List Commission :=
  (op.begun? r).toList.map fun begun =>
    { timeline := begun.1.timeline, grid := begun.1.grid, moment := begun.1.moment
      queue := begun.2 }

/-- The commissions of a history. -/
def commissionsAlong : List Operation → Renderer → List Commission
  | [], _ => []
  | op :: ops, r =>
    op.commissions r ++ match op.perform r with
      | .ok r => commissionsAlong ops r
      | .error _ => []

/-- What an operation shows, if it is a frame. -/
def showings (op : Operation) (r : Renderer) : List Showing :=
  match op, op.perform r with
  | .frame _, .ok r => [⟨r.slot.installed, r.moment⟩]
  | _, _ => []

/-- The showings of a history. -/
def showingsAlong : List Operation → Renderer → List Showing
  | [], _ => []
  | op :: ops, r =>
    op.showings r ++ match op.perform r with
      | .ok r => showingsAlong ops r
      | .error _ => []

end Operation

/-! ## The account -/

namespace Renderer

/-- The command on show is what the commission of its generation comes to,
with the frame hooks that have lasted; before the first one there is none. -/
def ShowsCommission (cs : List Commission) (ss : List Showing) (r : Renderer) : Prop :=
  r.slot.active = none ∧ r.slot.installed = 0 ∨
    ∃ c command, commissionOf cs r.slot.installed = some c ∧ r.slot.active = some command ∧
      command.bare = c.command.bare ∧
      command.hooks.frame = c.frameHooks.filterMap (·.after (framesOf r.slot.installed ss))

/-- Commissions and showings that account for a renderer. -/
structure Accounted (cs : List Commission) (ss : List Showing) (r : Renderer) : Prop where
  ordered : r.Ordered
  latest : r.slot.latest = cs.length
  builds : ∀ p ∈ r.builds, ∃ c, commissionOf cs p.ticket.generation = some c ∧
    Build.Left c.start p.build
  past : ∀ s ∈ ss, s.generation ≤ r.slot.installed
  shows : r.ShowsCommission cs ss

variable {cs : List Commission} {ss : List Showing} {r r' x : Renderer} {p : PendingBuild}
variable {left : Option PendingBuild} {fit patient : Bool}

/-- The account is about the slot and the builds. -/
theorem Accounted.same (h : r.Accounted cs ss) (hslot : r'.slot = r.slot)
    (hpending : r'.pending = r.pending) (hretired : r'.retired = r.retired) :
    r'.Accounted cs ss := by
  have hbuilds : r'.builds = r.builds := by
    rw [Renderer.builds, Renderer.builds, hpending, hretired]
  have hordered : r'.Ordered := by
    obtain ⟨hr, hp, hi, hd⟩ := h.ordered
    rw [← hslot] at hr hp hi hd
    rw [← hretired] at hr
    rw [← hpending] at hp hd
    exact ⟨hr, hp, hi, hd⟩
  exact ⟨hordered, by rw [hslot]; exact h.latest, by rw [hbuilds]; exact h.builds,
    by rw [hslot]; exact h.past, by rw [ShowsCommission, hslot]; exact h.shows⟩

/-- A build that ends and is installed shows its commission. -/
theorem Accounted.shows_of_installed (h : r.Accounted cs ss) (hpending : r.pending = some p)
    {command : DrawCommand} (hfinished : (p.build.advance patient).outcome = .finished command)
    (hslot : r'.slot = { r.slot with active := some command, installed := r.slot.latest }) :
    r'.ShowsCommission cs ss := by
  have hp : p ∈ r.builds := List.mem_append_right _ (by simp [hpending])
  obtain ⟨c, hcommission, hleft⟩ := h.builds p hp
  obtain ⟨hgeneration, hbehind⟩ := h.ordered.pending p (by simp [hpending])
  have hcommand : command = c.command := hleft.finished hfinished
  -- It was installed just now, so no frame has shown it.
  have hnew : framesOf r.slot.latest ss = [] := framesOf_later h.past hbehind
  refine .inr ⟨c, command, ?_, by rw [hslot], by rw [hcommand], ?_⟩
  · simpa only [hslot, ← hgeneration] using hcommission
  · simp only [hslot, hnew, hcommand, c.frame_command, FrameHook.after, List.filterMap_some]

/-- **Polling keeps the account.** -/
theorem BuildsPolled.accounted (h : r.BuildsPolled r') (hr : r.Accounted cs ss) :
    r'.Accounted cs ss := by
  obtain ⟨hretired, hpending⟩ := h.later
  have hbuilds : ∀ q ∈ r'.builds, ∃ c, commissionOf cs q.ticket.generation = some c ∧
      Build.Left c.start q.build := by
    intro q hq
    have hfrom : ∃ p ∈ r.builds, p.Later q := by
      rcases List.mem_append.1 hq with hq | hq
      · obtain ⟨p, hp, hlater⟩ := hretired q hq
        exact ⟨p, List.mem_append_left _ hp, hlater⟩
      · obtain ⟨p, hp, hlater⟩ := hpending q hq
        exact ⟨p, List.mem_append_right _ hp, hlater⟩
    obtain ⟨p, hp, hlater⟩ := hfrom
    obtain ⟨c, hcommission, hleft⟩ := hr.builds p hp
    exact ⟨c, hlater.ticket ▸ hcommission, hleft.trans hlater.left⟩
  have hordered := h.ordered hr.ordered
  rcases h.slot hr.ordered with ⟨hslot, -⟩ | ⟨p, command, hp, hfinished, -, hslot⟩
  · exact ⟨hordered, hslot ▸ hr.latest, hbuilds, hslot ▸ hr.past,
      by rw [ShowsCommission, hslot]; exact hr.shows⟩
  · refine ⟨hordered, by rw [hslot]; exact hr.latest, hbuilds, fun s hs => ?_,
      hr.shows_of_installed hp hfinished hslot⟩
    rw [hslot]
    exact Nat.le_trans (hr.past s hs) hr.ordered.installed

/-- **A build that begins is accounted for** by one more commission. -/
theorem Accounted.enlist (h : r.Accounted cs ss) (queue : List Queued) :
    (r.enlist queue).Accounted (cs ++ [⟨r.timeline, r.grid, r.moment, queue⟩]) ss := by
  have hlength := h.latest
  refine ⟨h.ordered.enlist queue, ?_, fun p hp => ?_, h.past, ?_⟩
  · simp [Renderer.enlist, CommandSlot.begin, hlength]
  · simp only [Renderer.builds, Renderer.enlist, Option.toList_some, List.mem_append,
      List.mem_singleton] at hp
    rcases hp with hp | rfl
    · obtain ⟨c, hcommission, hleft⟩ := h.builds p (List.mem_append.2 hp)
      exact ⟨c, commissionOf_append hcommission _, hleft⟩
    · simp only [CommandSlot.begin, hlength, commissionOf_last]
      exact ⟨_, rfl, .here⟩
  · rcases h.shows with hnone | ⟨c, command, hcommission, hrest⟩
    · exact .inl hnone
    · exact .inr ⟨c, command, commissionOf_append hcommission _, hrest⟩

/-- A frame adds itself to the frames that have shown what it shows. -/
theorem Accounted.shown (h : r.Accounted cs ss) :
    r.shown.Accounted cs (ss ++ [⟨r.slot.installed, r.moment⟩]) := by
  have hordered : r.shown.Ordered := (r.alike_shown).ordered h.ordered
  obtain ⟨hbare, hlatest, hinstalled⟩ := r.slot.runFrameHooks_bare r.moment
  have hslot : r.shown.slot = (r.slot.runFrameHooks r.moment).1 := by rw [shown_eq]
  have hbuilds : r.shown.builds = r.builds := by
    rw [shown_eq]
    rfl
  refine ⟨hordered, ?_, by rw [hbuilds]; exact h.builds, fun s hs => ?_, ?_⟩
  · rw [hslot, hlatest]
    exact h.latest
  · rw [hslot, hinstalled]
    rcases List.mem_append.1 hs with hs | hs
    · exact h.past s hs
    · obtain rfl := List.mem_singleton.1 hs
      exact Nat.le_refl _
  · rw [ShowsCommission, hslot, hinstalled]
    rcases h.shows with ⟨hnone, hzero⟩ | ⟨c, command, hcommission, hactive, hdrawn, hhooks⟩
    · exact .inl ⟨by simp [CommandSlot.runFrameHooks, hnone], hzero⟩
    · refine .inr ⟨c, (command.runFrameHooks r.moment).1, hcommission, ?_, hdrawn, ?_⟩
      · simp [CommandSlot.runFrameHooks, hactive]
      · rw [framesOf_concat]
        exact HookList.runFrame_after _ hhooks r.moment

/-! ## What the journal hears -/

theorem Settled.frameCalls_journal (h : Settled patient r p r' left fit) :
    frameCalls r'.journal = frameCalls r.journal := by
  have hpoll := Build.frameCalls_advance patient p.build
  cases h with
  | waits houtcome => simp [heard, note, hpoll]
  | installed houtcome hcurrent =>
    cases hactive : r.slot.active <;> simp [heard, note, hpoll, DrawCommand.tearDown]
  | late houtcome hstale => simp [heard, note, hpoll, DrawCommand.tearDown]

theorem RetiredPolled.frameCalls_journal {ps : List PendingBuild} (h : RetiredPolled ps r r') :
    frameCalls r'.journal = frameCalls r.journal := by
  induction h with
  | nil r => rfl
  | cons h hrest ih => exact ih.trans h.frameCalls_journal

/-- **Polling calls no frame hook.** -/
theorem BuildsPolled.frameCalls_journal (h : r.BuildsPolled r') :
    frameCalls r'.journal = frameCalls r.journal := by
  cases h with
  | idle h hidle => exact h.frameCalls_journal
  | pending h hpending hsettled => exact hsettled.frameCalls_journal.trans h.frameCalls_journal

/-- **A frame calls the hooks that are due** for what it shows. -/
theorem Accounted.frameCalls_shown (h : r.Accounted cs ss) :
    frameCalls r.shown.journal = frameCalls r.journal
      ++ (dueHooks cs ss r.slot.installed).map fun hook => .framed hook.tag r.moment := by
  have hjournal : r.shown.journal = r.journal ++ (r.slot.runFrameHooks r.moment).2 := by
    rw [shown_eq]
  rw [hjournal, frameCalls_append]
  congr 1
  rcases h.shows with ⟨hnone, hzero⟩ | ⟨c, command, hcommission, hactive, -, hhooks⟩
  · simp [CommandSlot.runFrameHooks, hnone, hzero, dueHooks, commissionOf]
  · simp only [CommandSlot.runFrameHooks, hactive, DrawCommand.runFrameHooks, HookList.runFrame,
      frameCalls_calls, hhooks, calls_after, dueHooks, hcommission, Option.toList_some,
      List.flatMap_cons, List.flatMap_nil, List.append_nil]

end Renderer

/-! ## Operations and histories -/

namespace Operation

variable {cs : List Commission} {ss : List Showing} {op : Operation} {ops : List Operation}
variable {r r' : Renderer}

/-- The calls that an operation makes: those that are due if it is a frame. -/
def callsDue (cs : List Commission) (ss : List Showing) : Operation → Renderer → List HookEvent
  | .frame _, r => (dueHooks cs ss r.slot.installed).map fun hook => .framed hook.tag r.moment
  | _, _ => []

theorem starts_of_begun {x : Renderer} {queue : List Queued}
    (h : op.begun? r = some (x, queue)) : op.starts = true := by
  cases begun_of_eq_some h <;> rfl

/-- What starts a build is no frame. -/
theorem showings_of_starts (h : op.starts = true) :
    (∀ r, op.showings r = []) ∧ ∀ cs ss r, callsDue cs ss op r = [] := by
  cases op <;> simp_all [starts, showings, callsDue]

/-- An operation that neither begins a build nor is a frame. -/
theorem accounted_quietly (hop : op.commissions r = [] ∧ op.showings r = [])
    (hcalls : ∀ cs, callsDue cs ss op r' = []) (h : r'.Accounted cs ss)
    (hjournal : frameCalls r'.journal = frameCalls r.journal) :
    r'.Accounted (cs ++ op.commissions r) (ss ++ op.showings r) ∧
      frameCalls r'.journal
        = frameCalls r.journal ++ callsDue (cs ++ op.commissions r) ss op r' := by
  simpa only [hop.1, hop.2, hcalls, List.append_nil] using And.intro h hjournal

/-- **Every operation keeps the account**, with the commission that it gives
and the frame that it shows, and calls the hooks that are due. -/
theorem Performed.accounted (h : Performed op r r') (hperform : op.perform r = .ok r')
    (hr : r.Accounted cs ss) (hsound : r.Sound) :
    r'.Accounted (cs ++ op.commissions r) (ss ++ op.showings r) ∧
      frameCalls r'.journal
        = frameCalls r.journal ++ callsDue (cs ++ op.commissions r) ss op r' := by
  cases h with
  | refused hstarts h =>
    have hcommissions : op.commissions r = [] := by simp [commissions, h]
    obtain ⟨hshowings, hcalls⟩ := showings_of_starts hstarts
    exact accounted_quietly ⟨hcommissions, hshowings r⟩ (hcalls · ss r) hr rfl
  | @built op r x r' queue hbegun hpolled =>
    have hx := (queue_of_begun hbegun).2
    have hready : x.Accounted cs ss := hr.same (by rw [hx]) (by rw [hx]) (by rw [hx])
    have hjournal : (x.enlist queue).journal = r.journal := by rw [hx]; rfl
    have hshows := showings_of_starts (starts_of_begun hbegun)
    -- The commission is on the list before its build is polled for the first time.
    have hkept := hpolled.accounted (hready.enlist queue)
    have hcalls := hpolled.frameCalls_journal
    rw [hjournal] at hcalls
    simpa [commissions, hbegun, hshows] using And.intro hkept hcalls
  | resized width height r =>
    rw [Renderer.resizeBuffers_eq]
    exact accounted_quietly ⟨rfl, rfl⟩ (fun _ => rfl) (hr.same rfl rfl rfl) rfl
  | @framed now r r'' hpolled =>
    have hticked : (r.ticked now).Accounted cs ss := hr.same rfl rfl rfl
    have hkept := hpolled.accounted hticked
    -- The hooks called are those of the command that is on show once the builds were polled.
    have hcalls := hkept.frameCalls_shown
    have hinstalled : r''.shown.slot.installed = r''.slot.installed := r''.alike_shown.installed
    have hmoment : r''.shown.moment = r''.moment := by
      rw [Renderer.shown_eq]
      rfl
    have hjournal : frameCalls r''.journal = frameCalls r.journal := hpolled.frameCalls_journal
    rw [hjournal] at hcalls
    have hshown := hkept.shown
    simp only [commissions, begun?, showings, hperform, callsDue, hinstalled, hmoment,
      Option.toList_none, List.map_nil, List.append_nil]
    exact ⟨hshown, hcalls⟩
  | idle h => exact accounted_quietly ⟨rfl, rfl⟩ (fun _ => rfl) hr rfl
  | @finished r r'' p left fit h hsettled =>
    have hbuild := hsound.builds p (List.mem_append_right _ (by simp [h]))
    have hordered := hsettled.ordered h hr.ordered hbuild
    have hcalls : frameCalls r''.journal = frameCalls r.journal := hsettled.frameCalls_journal
    have hretired : r''.retired = r.retired := by rw [hsettled.frame]
    -- Nothing is commissioned: what is installed was on the list already.
    obtain ⟨command, hfinished, rfl, hslot⟩ := hsettled.slot_of_pending h hr.ordered hbuild
    refine accounted_quietly ⟨rfl, rfl⟩ (fun _ => rfl)
      ⟨hordered, ?_, fun q hq => ?_, fun s hs => ?_,
        hr.shows_of_installed h hfinished hslot⟩ hcalls
    · simp only [hslot]
      exact hr.latest
    · simp only [Renderer.builds, Option.toList_none, List.append_nil, hretired] at hq
      exact hr.builds q (List.mem_append_left _ hq)
    · simp only [hslot]
      exact Nat.le_trans (hr.past s hs) hr.ordered.installed
  | reported error r =>
    exact accounted_quietly ⟨rfl, rfl⟩ (fun _ => rfl) (hr.same rfl rfl rfl) rfl
  | clockChanged change r =>
    exact accounted_quietly ⟨rfl, rfl⟩ (fun _ => rfl) (hr.same rfl rfl rfl) rfl
  | effectsChanged registry r =>
    exact accounted_quietly ⟨rfl, rfl⟩ (fun _ => rfl) (hr.same rfl rfl rfl) rfl

/-- **The account of a whole history.** -/
theorem run_accounted (hr : r.Accounted cs ss) (hsound : r.Sound)
    (hops : ∀ op ∈ ops, op.Faultless) (hrun : run ops r = .ok r') :
    r'.Accounted (cs ++ commissionsAlong ops r) (ss ++ showingsAlong ops r) ∧ r'.Sound := by
  induction ops generalizing r cs ss with
  | nil =>
    obtain rfl := Except.ok.inj hrun
    simpa [commissionsAlong, showingsAlong] using ⟨hr, hsound⟩
  | cons op ops ih =>
    rcases perform_of_sound op hsound with ⟨r₁, hperform, hperformed⟩ | ⟨crash, hperform, -⟩
    · have hlater := ih (hperformed.accounted hperform hr hsound).1
        (hperformed.sound hsound (hops op List.mem_cons_self))
        (fun op' hop' => hops op' (List.mem_cons_of_mem _ hop'))
        (by simpa only [run, hperform] using hrun)
      simpa only [commissionsAlong, showingsAlong, hperform, List.append_assoc] using hlater
    · simp [run, hperform] at hrun

end Operation

namespace Renderer

open Operation (run commissionsAlong showingsAlong callsDue)

variable {device : Device} {registry : Registry} {timeline : TimelineConfig}
variable {op : Operation} {ops : List Operation} {r r₁ r₂ : Renderer}

/-- The commission that a renderer is created with. -/
def commissionsAtFirst (device : Device) (registry : Registry) (timeline : TimelineConfig) :
    List Commission :=
  match prepare device registry timeline with
  | .ok p => Operation.rebuild.commissions p
  | .error _ => []

/-- A created renderer is accounted for by its first commission. -/
theorem accounted_of_create (hcreate : create device registry timeline = .ok (.ok r))
    (hfaultless : registry.Faultless) :
    r.Accounted (commissionsAtFirst device registry timeline) [] ∧ r.Sound := by
  obtain ⟨p, queue, hprepare, -, hperform⟩ := create_eq_ok hcreate
  have hp := (prepare_eq_ok hprepare).2.2
  have hsound : p.Sound := by
    rw [hp]
    exact ⟨hfaultless, by simp [builds]⟩
  have hprepared : p.Accounted [] [] := by
    rw [hp]
    exact ⟨⟨by simp, by simp, Nat.le_refl _, fun _ => rfl⟩, rfl, by simp [builds], by simp,
      .inl ⟨rfl, rfl⟩⟩
  have hbuilt : run [.rebuild] p = .ok r := by simp only [run, hperform]
  have hrun := Operation.run_accounted hprepared hsound (by simp [Operation.Faultless]) hbuilt
  simpa [commissionsAtFirst, hprepare, commissionsAlong, showingsAlong, hperform,
    Operation.showings] using hrun

/-- **A frame calls the hooks of the command that it shows.** A renderer is
created, and a history of operations follows, and one more operation. If that
is a frame, it calls, once each and with its own moment, the frame hooks of the
registrations that stand in the build whose command is on show when the builds
have been polled, in the order they were put down, but for those that ended in
an earlier frame; and if it is anything else, it calls none. The command on
show is the one that the build of its generation comes to. Dropping the
renderer calls no frame hook. -/
theorem frame_hooks_exact (hcreate : create device registry timeline = .ok (.ok r))
    (hfaultless : registry.Faultless) (hops : ∀ op ∈ ops, op.Faultless)
    (hrun : run ops r = .ok r₁) (hperform : op.perform r₁ = .ok r₂) :
    let cs := commissionsAtFirst device registry timeline ++ commissionsAlong ops r
      ++ op.commissions r₁
    frameCalls r₂.journal = frameCalls r₁.journal ++ callsDue cs (showingsAlong ops r) op r₂ ∧
      r₂.ShowsCommission cs (showingsAlong ops r ++ op.showings r₁) ∧
      frameCalls r₂.drop = frameCalls r₂.journal := by
  obtain ⟨hcreated, hsound⟩ := accounted_of_create hcreate hfaultless
  obtain ⟨hr₁, hsound₁⟩ := Operation.run_accounted hcreated hsound hops hrun
  rcases Operation.perform_of_sound op hsound₁ with ⟨r', hperform', hperformed⟩ | ⟨crash, h, -⟩
  · obtain rfl : r₂ = r' := Except.ok.inj (hperform.symm.trans hperform')
    obtain ⟨hkept, hcalls⟩ := hperformed.accounted hperform hr₁ hsound₁
    refine ⟨by simpa using hcalls, by simpa using hkept.shows, ?_⟩
    have hbuilds : ∀ ps : List PendingBuild,
        frameCalls (ps.flatMap fun p => p.build.abandon) = [] := by
      intro ps
      induction ps with
      | nil => rfl
      | cons p ps ih => simp [Build.frameCalls_abandon, ih]
    cases hactive : r₂.slot.active <;>
      simp [drop, CommandSlot.clear, hactive, DrawCommand.tearDown, hbuilds]
  · rw [hperform] at h
    cases h

end Renderer

/-! ## A command with two hooks -/

/-- A registry with an effect that waits between its two frame hooks, of which
the second one ends with its first call. -/
def Registry.watching : Registry where
  effects := [{
    id := "Watching"
    displayName := "Watching"
    fields := []
    register := fun _ =>
      { moves := [.act (.onFrame (.always "steady")), .wait,
          .act (.onFrame { tag := "brief", goesOn := fun _ _ => false })] } }]

/-- A timeline with one instance of it. -/
def TimelineConfig.watched : TimelineConfig where
  tracks := [[{ effectId := "Watching", timeBegin := 0, timeEnd := 1000 }]]
  gridWidth := 1
  gridHeight := 1

theorem Registry.faultless_watching : Registry.watching.Faultless := by
  intro e he q
  obtain rfl := List.mem_singleton.1 he
  have happends : ∀ a ∈ [Action.onFrame (.always "steady"),
      .onFrame { tag := "brief", goesOn := fun _ _ => false }], a.Appends := by decide
  exact Registration.faultless_of_appends happends ⟨List.nodup_nil, List.nodup_nil⟩

namespace Renderer

open Operation (run commissionsAlong showingsAlong callsDue)

/-- The build ends in the first frame, which calls both hooks; the second
frame calls the one that has gone on. -/
theorem frame_hooks_exact_watching :
    ∃ r r₁ r₂, create {} .watching .watched = .ok (.ok r) ∧ run [.frame 0] r = .ok r₁ ∧
      (Operation.frame 1).perform r₁ = .ok r₂ ∧
      frameCalls r₁.journal = [.framed "steady" r₁.moment, .framed "brief" r₁.moment] ∧
      frameCalls r₂.journal = frameCalls r₁.journal ++ [.framed "steady" r₂.moment] := by
  have hcomputed : ∃ r r₁, create {} .watching .watched = .ok (.ok r) ∧
      run [.frame 0] r = .ok r₁ ∧
      (frameCalls r₁.journal == [.framed "steady" r₁.moment, .framed "brief" r₁.moment] &&
        ((Operation.frame 1).perform r₁).toOption.any fun r₂ =>
          callsDue (commissionsAtFirst {} .watching .watched ++ commissionsAlong [.frame 0] r
            ++ (Operation.frame 1).commissions r₁) (showingsAlong [.frame 0] r) (.frame 1) r₂
            == [.framed "steady" r₂.moment]) = true :=
    exists_of_computed (by decide +kernel)
  obtain ⟨r, r₁, hcreate, hrun, hholds⟩ := hcomputed
  obtain ⟨hfirst, hsecond⟩ := Bool.and_eq_true_iff.1 hholds
  cases hperform : (Operation.frame 1).perform r₁ with
  | error crash => simp [hperform, Except.toOption] at hsecond
  | ok r₂ =>
    simp only [hperform, Except.toOption, Option.any_some] at hsecond
    have hops : ∀ op ∈ [Operation.frame 0], op.Faultless := by simp [Operation.Faultless]
    obtain ⟨hcalls, -⟩ :=
      frame_hooks_exact hcreate Registry.faultless_watching hops hrun hperform
    rw [beq_iff_eq.1 hsecond] at hcalls
    exact ⟨r, r₁, r₂, hcreate, hrun, hperform, beq_iff_eq.1 hfirst, hcalls⟩

end Renderer

end ParticleTimeline
