import ParticleTimeline.Proofs.Draw.Failures
import ParticleTimeline.Proofs.Render.Operation
/-!
# Which reports a frame takes

The queue of reports is touched in two ways: somebody reports, or a frame
takes what is waiting. What a renderer does to it in a history is a list of
touches (`Operation.touchesAlong`), and others who hold a reporter put theirs
in between (`Touch.amid`). A queue that is listened to is cut at the takings
(`ReportQueue.play_eq`): each frame gets the reports since the frame before,
and what is left waits for the next one (`Renderer.reports_exact`).
-/

namespace ParticleTimeline

/-! ## What befalls the queue -/

/-- Something done to a queue of reports. -/
inductive Touch where
  | reported (e : EffectError)
  | taken

namespace Touch

/-- What a renderer does to its queue, with the reports that others make
before each time. -/
def amid : (others : List (List EffectError)) → List Touch → List Touch
  | _, [] => []
  | others, t :: ts => (others.headD []).map reported ++ t :: amid others.tail ts

/-- The report that is made, if one is. -/
def report? : Touch → Option EffectError
  | reported e => some e
  | taken => none

/-- The reports from one taking to the next, and those that wait in the end.
Before the first taking there are some already. -/
def batches (waiting : List EffectError) : List Touch → List (List EffectError)
  | [] => [waiting]
  | reported e :: ts => batches (waiting ++ [e]) ts
  | taken :: ts => waiting :: batches [] ts

theorem batches_reported (waiting es : List EffectError) (ts : List Touch) :
    batches waiting (es.map reported ++ ts) = batches (waiting ++ es) ts := by
  induction es generalizing waiting with
  | nil => simp
  | cons e es ih => simp [batches, ih]

/-- No report is in two batches, and none is in no batch. -/
theorem flatten_batches (waiting : List EffectError) (ts : List Touch) :
    (batches waiting ts).flatten = waiting ++ ts.filterMap report? := by
  induction ts generalizing waiting with
  | nil => simp [batches]
  | cons t ts ih => cases t <;> simp [batches, report?, ih, List.filterMap_cons]

end Touch

namespace ReportQueue

open Touch (amid batches)

/-- A queue after some touches, and what was taken each time. -/
def play : List Touch → ReportQueue → ReportQueue × List (List EffectError)
  | [], q => (q, [])
  | .reported e :: ts, q => play ts (q.report e)
  | .taken :: ts, q => ((play ts q.drain.1).1, q.drain.2 :: (play ts q.drain.1).2)

theorem play_append (ts us : List Touch) (q : ReportQueue) :
    play (ts ++ us) q
      = ((play us (play ts q).1).1, (play ts q).2 ++ (play us (play ts q).1).2) := by
  induction ts generalizing q with
  | nil => rfl
  | cons t ts ih => cases t <;> simp [play, ih]

theorem play_reported (es : List EffectError) (q : ReportQueue) :
    play (es.map .reported) q = (q.reportAll es, []) := by
  induction es generalizing q with
  | nil => rfl
  | cons e es ih => simpa [play, reportAll] using ih (q.report e)

theorem catchUp_eq {q : ReportQueue} (h : q.listening = true) :
    q.catchUp = { q with waiting := q.waiting ++ q.others.headD [], others := q.others.tail } := by
  simp only [catchUp, add, h, if_true]

/-- **A queue that is listened to is cut at the takings**, and goes on being
listened to. -/
theorem play_eq {q : ReportQueue} (h : q.listening = true) (ts : List Touch) :
    (play ts q).2 ++ [(play ts q).1.waiting] = batches q.waiting (amid q.others ts) ∧
      (play ts q).1.listening = true := by
  induction ts generalizing q with
  | nil => exact ⟨rfl, h⟩
  | cons t ts ih =>
    have hcaught := catchUp_eq h
    cases t with
    | reported e =>
      have hreport : q.report e = { q with
          waiting := q.waiting ++ q.others.headD [] ++ [e], others := q.others.tail } := by
        simp only [report, hcaught, add, h, if_true]
      have hlistening : (q.report e).listening = true := by rw [hreport]; exact h
      obtain ⟨hlater, hstays⟩ := ih hlistening
      refine ⟨?_, hstays⟩
      simp only [play, amid, Touch.batches_reported, batches]
      rw [hlater, hreport]
    | taken =>
      have hdrain : q.drain.1 = { q with waiting := [], others := q.others.tail } := by
        simp only [drain, hcaught]
      have htaken : q.drain.2 = q.waiting ++ q.others.headD [] := by simp only [drain, hcaught]
      have hlistening : q.drain.1.listening = true := by rw [hdrain]; exact h
      obtain ⟨hlater, hstays⟩ := ih hlistening
      refine ⟨?_, hstays⟩
      simp only [play, amid, Touch.batches_reported, batches, List.cons_append]
      rw [hlater, htaken, hdrain]

end ReportQueue

/-! ## What a renderer does to its queue -/

/-- The failures that some builds report when they are polled. -/
def failedBy (ps : List PendingBuild) : List EffectError :=
  ps.flatMap fun p => p.build.failed false

namespace Renderer

variable {patient : Bool} {r r' : Renderer} {p : PendingBuild} {left : Option PendingBuild}
variable {fit : Bool}

theorem Settled.reports (h : Settled patient r p r' left fit) (hsound : p.build.Sound) :
    r'.reports = r.reports.reportAll (p.build.failed patient) := by
  have hreports := hsound.reports patient
  cases h <;> simp [heard, note, hreports]

theorem RetiredPolled.reports {ps : List PendingBuild} (h : RetiredPolled ps r r')
    (hsound : ∀ p ∈ ps, p.build.Sound) : r'.reports = r.reports.reportAll (failedBy ps) := by
  induction h with
  | nil r => rfl
  | @cons p rest r r₁ r'' left fit h hrest ih =>
    have hhead := h.reports (hsound p List.mem_cons_self)
    have htail := ih fun q hq => hsound q (List.mem_cons_of_mem _ hq)
    simp only [hhead] at htail
    simp [htail, failedBy, ReportQueue.reportAll]

/-- **Polling reports the failures of all builds**, superseded ones first. -/
theorem BuildsPolled.reports (h : r.BuildsPolled r') (hsound : ∀ p ∈ r.builds, p.build.Sound) :
    r'.reports = r.reports.reportAll (failedBy r.builds) := by
  have hretired : ∀ p ∈ r.retired, p.build.Sound := fun p hp => hsound p (List.mem_append_left _ hp)
  cases h with
  | idle h hidle =>
    have hsame : r.pending = none := by rw [← hidle, h.frame]
    simpa [builds, hsame] using h.reports hretired
  | @pending p r₁ r₂ left fit h hpending hsettled =>
    have hsame : r.pending = some p := by rw [← hpending, h.frame]
    have hbuild : p.build.Sound := hsound p (List.mem_append_right _ (by simp [hsame]))
    have hlast := hsettled.reports hbuild
    rw [h.reports hretired] at hlast
    simp [hlast, builds, hsame, failedBy, ReportQueue.reportAll]

/-- A frame reports what it has taken from the queue. -/
theorem errors_of_frame {now : Nat} {report : FrameReport} (h : r.frame now = .ok (r', report)) :
    report.errors = r.reports.drain.2 := by
  unfold frame at h
  rcases htick : r.clock.tick now with ⟨clock, deliveries, _ | fault⟩
  · simp only [htick, pure, Except.pure, bind, Except.bind] at h
    cases hpoll : ({ r with reports := r.reports.drain.1, clock } : Renderer).pollBuilds with
    | error crash => simp [hpoll] at h
    | ok polled =>
      simp only [hpoll, Except.ok.injEq, Prod.mk.injEq] at h
      rw [← h.2]
  · simp [htick, bind, Except.bind, throw, throwThe, MonadExceptOf.throw] at h

end Renderer

namespace Operation

/-- What an operation does to the queue: the builds that it polls report their
failures, and a frame takes what is waiting before that. -/
def touches (op : Operation) (r : Renderer) : List Touch :=
  match op.begun? r, op with
  | some (x, queue), _ => (failedBy (x.enlist queue).builds).map .reported
  | none, .frame _ => .taken :: (failedBy r.builds).map .reported
  | none, .finishBuild => (r.pending.toList.flatMap fun p => p.build.failed true).map .reported
  | none, .report e => [.reported e]
  | none, _ => []

/-- What a history does to the queue. -/
def touchesAlong : List Operation → Renderer → List Touch
  | [], _ => []
  | op :: ops, r =>
    op.touches r ++ match op.perform r with
      | .ok r => touchesAlong ops r
      | .error _ => []

/-- What an operation says of itself, if it is a frame. -/
def frameReport? : Operation → Renderer → Option FrameReport
  | .frame now, r => (r.frame now).toOption.map Prod.snd
  | _, _ => none

/-- What the frames of a history say of themselves. -/
def frameReports : List Operation → Renderer → List FrameReport
  | [], _ => []
  | op :: ops, r =>
    (op.frameReport? r).toList ++ match op.perform r with
      | .ok r => frameReports ops r
      | .error _ => []

variable {op : Operation} {ops : List Operation} {r r' : Renderer}

/-- **An operation does to the queue what its builds and its frame do**, and a
frame reports what it took. -/
theorem Performed.play (h : Performed op r r') (hperform : op.perform r = .ok r')
    (hsound : r.Sound) :
    r.reports.play (op.touches r)
      = (r'.reports, (op.frameReport? r).toList.map FrameReport.errors) := by
  cases h with
  | refused hstarts h => cases op <;> simp_all [touches, starts, frameReport?, ReportQueue.play]
  | @built op r x r' queue hbegun hpolled =>
    have hx := (queue_of_begun hbegun).2
    have hsame : (x.enlist queue).reports = r.reports := by rw [hx]; rfl
    have hreports := hpolled.reports (hsound.enlist hbegun).builds
    have hnone : op.frameReport? r = none := by cases begun_of_eq_some hbegun <;> rfl
    rw [hsame] at hreports
    simp [touches, hbegun, ReportQueue.play_reported, hreports, hnone]
  | resized width height r =>
    rw [Renderer.resizeBuffers_eq]
    rfl
  | @framed now r r'' hpolled =>
    cases hframe : r.frame now with
    | error crash => simp [perform, hframe, Except.map] at hperform
    | ok framed =>
      have hreports := hpolled.reports hsound.builds
      have hkept : r''.shown.reports = r''.reports := by rw [Renderer.shown_eq]
      have hbuilds : (r.ticked now).builds = r.builds := rfl
      -- A frame takes what waits before it polls its builds.
      have hdrained : (r.ticked now).reports = r.reports.drain.1 := rfl
      rw [hbuilds, hdrained] at hreports
      have herrors := Renderer.errors_of_frame hframe
      simp [touches, begun?, ReportQueue.play, ReportQueue.play_reported, hkept, hreports,
        frameReport?, hframe, Except.toOption, herrors]
  | idle h => simp [touches, begun?, h, frameReport?, ReportQueue.play]
  | @finished r r'' p left fit h hsettled =>
    have hbuild := hsound.builds p (List.mem_append_right _ (by simp [h]))
    have hreports := hsettled.reports hbuild
    simp only at hreports
    simp [touches, begun?, h, frameReport?, ReportQueue.play_reported, hreports]
  | reported error r => rfl
  | clockChanged change r => rfl
  | effectsChanged registry r => rfl

/-- **A history does to the queue what its operations do**, one after the
other. -/
theorem run_play (hsound : r.Sound) (hops : ∀ op ∈ ops, op.Faultless)
    (hrun : run ops r = .ok r') :
    r.reports.play (touchesAlong ops r)
      = (r'.reports, (frameReports ops r).map FrameReport.errors) := by
  induction ops generalizing r with
  | nil =>
    obtain rfl := Except.ok.inj hrun
    rfl
  | cons op ops ih =>
    rcases perform_of_sound op hsound with ⟨r₁, hperform, hperformed⟩ | ⟨crash, hperform, -⟩
    · have hnow := hperformed.play hperform hsound
      have hlater := ih (hperformed.sound hsound (hops op List.mem_cons_self))
        (fun op' hop' => hops op' (List.mem_cons_of_mem _ hop'))
        (by simpa only [run, hperform] using hrun)
      simp only [touchesAlong, frameReports, hperform, ReportQueue.play_append, hnow, hlater,
        List.map_append]
    · simp [run, hperform] at hrun

end Operation

namespace Renderer

open Operation (run touchesAlong frameReports)

variable {device : Device} {registry : Registry} {timeline : TimelineConfig} {r r' : Renderer}
variable {ops : List Operation}

/-- The failures that are reported while a renderer is created. -/
def reportedAtFirst (device : Device) (registry : Registry) (timeline : TimelineConfig) :
    List EffectError :=
  match prepare device registry timeline with
  | .ok p => (Operation.rebuild.touches p).filterMap Touch.report?
  | .error _ => []

/-- A renderer whose reporter others have got hold of. -/
def amid (r : Renderer) (others : List (List EffectError)) : Renderer :=
  { r with reports := { r.reports with others } }

/-- The queue of a created renderer holds what its first build has reported. -/
theorem reports_of_create (hcreate : create device registry timeline = .ok (.ok r))
    (hfaultless : registry.Faultless) :
    r.Sound ∧ r.reports.waiting = reportedAtFirst device registry timeline ∧
      r.reports.listening = true := by
  obtain ⟨p, queue, hprepare, hbegun, hperform⟩ := create_eq_ok hcreate
  have hp := (prepare_eq_ok hprepare).2.2
  have hsound : p.Sound := by
    rw [hp]
    exact ⟨hfaultless, by simp [builds]⟩
  have hfresh : p.reports = {} := by rw [hp]
  rcases Operation.perform_of_sound .rebuild hsound with
    ⟨r₁, hperform₁, hperformed⟩ | ⟨crash, hperform₁, -⟩
  · obtain rfl : r₁ = r := Except.ok.inj (hperform₁.symm.trans hperform)
    have hplay := hperformed.play hperform hsound
    obtain ⟨hbatches, hlistening⟩ :=
      ReportQueue.play_eq (q := p.reports) (by rw [hfresh]) (Operation.rebuild.touches p)
    have hwaiting := congrArg List.flatten hbatches
    have hnobody : ∀ ts, Touch.amid [] ts = ts := by
      intro ts
      induction ts with
      | nil => rfl
      | cons t ts ih => simpa [Touch.amid] using ih
    rw [hplay] at hwaiting hlistening
    refine ⟨hperformed.sound hsound trivial, ?_, hlistening⟩
    simpa [hfresh, hnobody, Touch.flatten_batches, Operation.frameReport?, reportedAtFirst,
      hprepare] using hwaiting
  · rw [hperform] at hperform₁
    cases hperform₁

/-- What a frame takes was there before it polled its builds, and what is
reported while it goes on is waiting behind it. -/
theorem frame_defers {now : Nat} {report : FrameReport} (hsound : r.Sound)
    (hlistening : r.reports.listening = true) (hframe : r.frame now = .ok (r', report)) :
    report.errors = r.reports.waiting ++ r.reports.others.headD [] ∧
      r'.reports.waiting
        = (Touch.amid r.reports.others.tail ((failedBy r.builds).map .reported)).filterMap
            Touch.report? := by
  have hperform : Operation.perform (.frame now) r = .ok r' := by
    simp only [Operation.perform, hframe, Except.map]
  rcases Operation.perform_of_sound (.frame now) hsound with
    ⟨r₁, hperform₁, hperformed⟩ | ⟨crash, hperform₁, -⟩
  · obtain rfl : r₁ = r' := Except.ok.inj (hperform₁.symm.trans hperform)
    have hplay := hperformed.play hperform hsound
    have htouches : (Operation.frame now).touches r
        = .taken :: (failedBy r.builds).map .reported := rfl
    obtain ⟨hbatches, -⟩ := ReportQueue.play_eq hlistening ((Operation.frame now).touches r)
    rw [hplay, htouches] at hbatches
    simp only [Operation.frameReport?, hframe, Except.toOption, Option.map_some,
      Option.toList_some, List.map_cons, List.map_nil, List.cons_append, List.nil_append,
      Touch.amid, Touch.batches_reported, Touch.batches, List.cons.injEq] at hbatches
    obtain ⟨htaken, hrest⟩ := hbatches
    have hwaiting := congrArg List.flatten hrest
    exact ⟨htaken, by simpa [Touch.flatten_batches] using hwaiting⟩
  · rw [hperform] at hperform₁
    cases hperform₁

/-- **Every report is taken once, by the first frame that begins after it.** A
renderer is created, and a history follows, while others report through it
whenever they like. Then the failures that the frames give out, in their
order, and what is waiting in the end, are the reports in the order they were
made, cut where a frame took them. And what is reported while a frame goes on,
by its builds or by others, is not among the failures that this frame gives
out: it is what is waiting behind it, for the next one. -/
theorem reports_exact (hcreate : create device registry timeline = .ok (.ok r))
    (hfaultless : registry.Faultless) (others : List (List EffectError))
    (hops : ∀ op ∈ ops, op.Faultless) (hrun : run ops (r.amid others) = .ok r') :
    let touches := (reportedAtFirst device registry timeline).map .reported
      ++ Touch.amid others (touchesAlong ops (r.amid others))
    (frameReports ops (r.amid others)).map FrameReport.errors ++ [r'.reports.waiting]
        = Touch.batches [] touches ∧
      (frameReports ops (r.amid others)).flatMap FrameReport.errors ++ r'.reports.waiting
        = touches.filterMap Touch.report? ∧
      ∀ earlier now later, ops = earlier ++ .frame now :: later →
        ∃ r₁ r₂ report, run earlier (r.amid others) = .ok r₁ ∧ r₁.frame now = .ok (r₂, report) ∧
          report.errors = r₁.reports.waiting ++ r₁.reports.others.headD [] ∧
          r₂.reports.waiting
            = (Touch.amid r₁.reports.others.tail ((failedBy r₁.builds).map .reported)).filterMap
                Touch.report? := by
  intro touches
  obtain ⟨hsound, hwaiting, hlistening⟩ := reports_of_create hcreate hfaultless
  have hsound' : (r.amid others).Sound := ⟨hsound.registry, hsound.builds⟩
  have hplay := Operation.run_play hsound' hops hrun
  obtain ⟨hbatches, -⟩ := ReportQueue.play_eq (q := (r.amid others).reports) hlistening
    (touchesAlong ops (r.amid others))
  have hcut : (frameReports ops (r.amid others)).map FrameReport.errors ++ [r'.reports.waiting]
      = Touch.batches [] touches := by
    rw [hplay] at hbatches
    rw [Touch.batches_reported, List.nil_append, ← hwaiting]
    exact hbatches
  refine ⟨hcut, ?_, fun earlier now later hsplit => ?_⟩
  · have hall := congrArg List.flatten hcut
    rw [Touch.flatten_batches] at hall
    simpa [List.flatMap_def] using hall
  · have hearlier : ∀ op ∈ earlier, op.Faultless :=
      fun op hop => hops op (hsplit ▸ List.mem_append_left _ hop)
    rw [hsplit, Operation.run_append] at hrun
    rcases Operation.run_of_sound hsound' hearlier with
      ⟨r₁, hmiddle, hsound₁⟩ | ⟨-, -, -, -, crash, -, -, hmiddle, -⟩
    · -- The queue is still listened to when the frame begins.
      have hplay₁ := Operation.run_play hsound' hearlier hmiddle
      obtain ⟨-, hlistening₁⟩ := ReportQueue.play_eq (q := (r.amid others).reports) hlistening
        (touchesAlong earlier (r.amid others))
      rw [hplay₁] at hlistening₁
      cases hframe : r₁.frame now with
      | error crash => simp [hmiddle, run, Operation.perform, hframe, Except.map] at hrun
      | ok framed =>
        obtain ⟨htaken, hbehind⟩ := frame_defers hsound₁ hlistening₁ hframe
        exact ⟨r₁, framed.1, framed.2, hmiddle, hframe, htaken, hbehind⟩
    · simp [hmiddle] at hrun

end Renderer

/-! ## A registration that fails late -/

/-- A registry with an effect that waits and then fails. -/
def Registry.failing : Registry where
  effects := [{
    id := "Failing"
    displayName := "Failing"
    fields := []
    register := fun _ => { moves := [.wait], ending := .fails ⟨"Failing", "late"⟩ } }]

/-- A timeline with one instance of it. -/
def TimelineConfig.failing : TimelineConfig where
  tracks := [[{ effectId := "Failing", timeBegin := 0, timeEnd := 1000 }]]
  gridWidth := 1
  gridHeight := 1

/-- What others report: one failure before the first frame, and one in it. -/
def EffectError.overheard : List (List EffectError) := [[⟨"", "before"⟩], [⟨"", "during"⟩]]

theorem Registry.faultless_failing : Registry.failing.Faultless := by
  intro e he q
  obtain rfl := List.mem_singleton.1 he
  exact Registration.faultless_of_appends nofun ⟨List.nodup_nil, List.nodup_nil⟩

namespace Renderer

open Operation (run touchesAlong frameReports)

/-- The registration fails in the first frame, after the others have reported
theirs. -/
theorem reports_exact_failing :
    ∃ r r', create {} .failing .failing = .ok (.ok r) ∧
      run [.frame 0, .frame 1] (r.amid EffectError.overheard) = .ok r' ∧
      (frameReports [.frame 0, .frame 1] (r.amid EffectError.overheard)).map FrameReport.errors
          ++ [r'.reports.waiting]
        = [[⟨"", "before"⟩], [⟨"", "during"⟩, ⟨"Failing", "late"⟩], []] := by
  have hcomputed : ∃ r r₀, create {} .failing .failing = .ok (.ok r) ∧ run [] r = .ok r₀ ∧
      ((run [.frame 0, .frame 1] (r.amid EffectError.overheard)).toOption.isSome &&
        Touch.batches [] ((reportedAtFirst {} .failing .failing).map .reported
            ++ Touch.amid EffectError.overheard
              (touchesAlong [.frame 0, .frame 1] (r.amid EffectError.overheard)))
          == [[⟨"", "before"⟩], [⟨"", "during"⟩, ⟨"Failing", "late"⟩], []]) = true :=
    exists_of_computed (by decide +kernel)
  obtain ⟨r, -, hcreate, -, hholds⟩ := hcomputed
  obtain ⟨hgoes, hbatches⟩ := Bool.and_eq_true_iff.1 hholds
  cases hrun : run [.frame 0, .frame 1] (r.amid EffectError.overheard) with
  | error crash => simp [hrun, Except.toOption] at hgoes
  | ok r' =>
    have hops : ∀ op ∈ [Operation.frame 0, .frame 1], op.Faultless := by simp [Operation.Faultless]
    obtain ⟨hcut, -⟩ := reports_exact hcreate Registry.faultless_failing _ hops hrun
    exact ⟨r, r', hcreate, hrun, hcut.trans (beq_iff_eq.1 hbatches)⟩

end Renderer

end ParticleTimeline
