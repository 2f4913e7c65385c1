import Mathlib.Data.List.Basic
import ParticleTimeline.Draw.Slot
import ParticleTimeline.Proofs.Draw.Hooks
import ParticleTimeline.Proofs.Log
/-!
# Calls of the slot

The calls of a slot come in any order: builds end when they end, so commands
are handed in late, or with a ticket that was used before, and the slot is
cleared in between. A run of calls logs what came of each (`SlotRun`). What the
log says of the commands is true of the slot and of the hooks (`Orderly`): one
command at most stands, and that one is active; every other one has been torn
down, once. Each call keeps this (`Orderly.after`), so it holds at every point
of every run (`SlotRun.newest_build_wins`).
-/

namespace ParticleTimeline

/-- A call of a slot. -/
inductive SlotCall where
  | begin
  | install (ticket : BuildTicket) (command : DrawCommand)
  | runFrameHooks (frame : FrameContext)
  | clear

/-- What came of a call. -/
inductive SlotEntry where
  | issued (ticket : BuildTicket)
  /-- A command was handed in, and it was installed or not. -/
  | handed (ticket : BuildTicket) (command : DrawCommand) (installed : Bool)
  | framed (frame : FrameContext)
  | cleared

namespace SlotEntry

def ticket? : SlotEntry → Option BuildTicket
  | issued ticket => some ticket
  | handed .. | framed _ | cleared => none

def command? : SlotEntry → Option DrawCommand
  | handed _ command _ => some command
  | issued _ | framed _ | cleared => none

def frame? : SlotEntry → Option FrameContext
  | framed frame => some frame
  | issued _ | handed .. | cleared => none

/-- Whether the command that stood until then stands no more. -/
def ends : SlotEntry → Bool
  | handed _ _ installed => installed
  | cleared => true
  | issued _ | framed _ => false

end SlotEntry

/-- A slot after some calls, with what came of them and the hooks that ran,
oldest first. -/
structure SlotRun where
  slot : CommandSlot := {}
  log : List SlotEntry := []
  events : List HookEvent := []

namespace SlotRun

/-- One more call. -/
def after (x : SlotRun) : SlotCall → SlotRun
  | .begin =>
    let (slot, ticket) := x.slot.begin
    { x with slot, log := x.log ++ [.issued ticket] }
  | .install ticket command =>
    let (slot, installed, events) := x.slot.install ticket command
    { slot, log := x.log ++ [.handed ticket command installed], events := x.events ++ events }
  | .runFrameHooks frame =>
    let (slot, events) := x.slot.runFrameHooks frame
    { slot, log := x.log ++ [.framed frame], events := x.events ++ events }
  | .clear =>
    let (slot, events) := x.slot.clear
    { slot, log := x.log ++ [.cleared], events := x.events ++ events }

def run : List SlotCall → SlotRun → SlotRun
  | [], x => x
  | call :: calls, x => run calls (x.after call)

/-- The tickets that were issued, oldest first. -/
def tickets (x : SlotRun) : List BuildTicket := x.log.filterMap SlotEntry.ticket?

/-- The commands that were handed in, installed or not. -/
def handed (x : SlotRun) : List DrawCommand := x.log.filterMap SlotEntry.command?

/-- Commands are handed in with tickets that were issued before. -/
def Entitled : List SlotCall → SlotRun → Prop
  | [], _ => True
  | .install ticket command :: calls, x =>
    ticket ∈ x.tickets ∧ Entitled calls (x.after (.install ticket command))
  | call :: calls, x => Entitled calls (x.after call)

end SlotRun

/-! ## The command that stands -/

/-- The command that was handed in after `k` others stands: it was the last to
be installed, and the slot has not been cleared since, but framed. -/
def Stands (log : List SlotEntry) (k : Nat) (c : DrawCommand) (frames : List FrameContext) : Prop :=
  ∃ earlier entry later, log = earlier ++ entry :: later ∧
    (∃ ticket, entry = .handed ticket c true) ∧
    k = (earlier.filterMap SlotEntry.command?).length ∧
    (∀ e ∈ later, ¬ e.ends = true) ∧ frames = later.filterMap SlotEntry.frame?

namespace Stands

variable {log : List SlotEntry} {e : SlotEntry} {k k' : Nat} {c c' : DrawCommand}
  {frames frames' : List FrameContext}

/-- It is one of the commands that were handed in. -/
theorem getElem?_handed (h : Stands log k c frames) :
    (log.filterMap SlotEntry.command?)[k]? = some c := by
  obtain ⟨earlier, entry, later, rfl, ⟨ticket, rfl⟩, rfl, -⟩ := h
  simp [SlotEntry.command?]

theorem unique (h : Stands log k c frames) (h' : Stands log k' c' frames') : k = k' := by
  obtain ⟨earlier, entry, later, rfl, ⟨ticket, rfl⟩, rfl, hlater, -⟩ := h
  obtain ⟨earlier', entry', later', hlog, ⟨ticket', rfl⟩, rfl, hlater', -⟩ := h'
  obtain ⟨rfl, -⟩ := Log.split_unique (fun e => e.ends = true) hlog rfl rfl hlater hlater'
  rfl

/-- What one more entry makes of it. -/
theorem concat_iff :
    Stands (log ++ [e]) k c frames ↔
      ((∃ ticket, e = .handed ticket c true) ∧ k = (log.filterMap SlotEntry.command?).length ∧
          frames = []) ∨
        ¬ e.ends = true ∧
          ∃ frames', Stands log k c frames' ∧ frames = frames' ++ e.frame?.toList := by
  rw [Stands, Log.split_concat]
  refine or_congr ?_ ⟨?_, ?_⟩
  · simp
  · rintro ⟨earlier, entry, later, hlog, hentry, hk, hlater, rfl⟩
    refine ⟨hlater e (by simp), _, ⟨earlier, entry, later, hlog, hentry, hk,
      fun e' he' => hlater e' (List.mem_append_left _ he'), rfl⟩, ?_⟩
    cases hframe : e.frame? <;> simp [hframe]
  · rintro ⟨hends, frames', ⟨earlier, entry, later, hlog, hentry, hk, hlater, rfl⟩, rfl⟩
    refine ⟨earlier, entry, later, hlog, hentry, hk, fun e' he' => ?_, ?_⟩
    · rcases List.mem_append.1 he' with he' | he'
      · exact hlater e' he'
      · obtain rfl := List.mem_singleton.1 he'
        exact hends
    · cases hframe : e.frame? <;> simp [hframe]

theorem issued_iff {ticket : BuildTicket} :
    Stands (log ++ [.issued ticket]) k c frames ↔ Stands log k c frames := by
  simp [concat_iff, SlotEntry.ends, SlotEntry.frame?]

theorem late_iff {ticket : BuildTicket} {command : DrawCommand} :
    Stands (log ++ [.handed ticket command false]) k c frames ↔ Stands log k c frames := by
  simp [concat_iff, SlotEntry.ends, SlotEntry.frame?]

theorem installed_iff {ticket : BuildTicket} {command : DrawCommand} :
    Stands (log ++ [.handed ticket command true]) k c frames ↔
      c = command ∧ k = (log.filterMap SlotEntry.command?).length ∧ frames = [] := by
  simp [concat_iff, SlotEntry.ends, eq_comm]

theorem framed_iff {frame : FrameContext} :
    Stands (log ++ [.framed frame]) k c frames ↔
      ∃ frames', Stands log k c frames' ∧ frames = frames' ++ [frame] := by
  simp [concat_iff, SlotEntry.ends, SlotEntry.frame?]

theorem not_cleared : ¬ Stands (log ++ [.cleared]) k c frames := by
  simp [concat_iff, SlotEntry.ends]

end Stands

/-- A command after its frame hooks have run in some frames. -/
def DrawCommand.after (c : DrawCommand) (frames : List FrameContext) : DrawCommand :=
  frames.foldl (fun c frame => (c.runFrameHooks frame).1) c

theorem DrawCommand.tearDown_after (c : DrawCommand) (frames : List FrameContext) :
    (c.after frames).tearDown = c.tearDown := by
  unfold after
  induction frames generalizing c with
  | nil => rfl
  | cons frame frames ih =>
    rw [List.foldl_cons, ih]
    rfl

theorem DrawCommand.after_concat (c : DrawCommand) (frames : List FrameContext)
    (frame : FrameContext) :
    c.after (frames ++ [frame]) = ((c.after frames).runFrameHooks frame).1 := by
  simp [after, List.foldl_append]

theorem CommandSlot.runFrameHooks_fst (s : CommandSlot) (frame : FrameContext) :
    (s.runFrameHooks frame).1
      = { s with active := s.active.map fun a => (a.runFrameHooks frame).1 } := by
  obtain ⟨_ | a, latest, installed⟩ := s <;> rfl

/-- A frame tears nothing down. -/
theorem CommandSlot.torn_runFrameHooks (s : CommandSlot) (frame : FrameContext) :
    torn (s.runFrameHooks frame).2 = [] := by
  obtain ⟨_ | a, latest, installed⟩ := s
  · rfl
  · simp [runFrameHooks, DrawCommand.runFrameHooks, HookList.runFrame, torn, HookEvent.torn?]

/-! ## The commands that are torn down -/

/-- Of the commands that were handed in, all but those that stand have been
torn down, one after the other and each once. -/
def TornDown (handed : List DrawCommand) (standing : Nat → Prop) (tags : List String) : Prop :=
  ∃ order : List Nat, order.Nodup ∧ (∀ k, k ∈ order ↔ k < handed.length ∧ ¬ standing k) ∧
    tags = (order.filterMap (handed[·]?)).flatMap fun c => torn c.tearDown

namespace TornDown

variable {handed : List DrawCommand} {standing standing' : Nat → Prop} {tags : List String}

theorem congr (h : TornDown handed standing tags) (hsame : ∀ k, standing k ↔ standing' k) :
    TornDown handed standing' tags := by
  rwa [TornDown, ← funext fun k => propext (hsame k)]

/-- One more command is handed in and stands. -/
theorem hand (h : TornDown handed standing tags) (c : DrawCommand) :
    TornDown (handed ++ [c]) (fun k => standing k ∨ k = handed.length) tags := by
  obtain ⟨order, hnodup, hmem, rfl⟩ := h
  refine ⟨order, hnodup, fun k => ?_, ?_⟩
  · rw [hmem, List.length_append, List.length_singleton]
    constructor
    · rintro ⟨hk, hstanding⟩
      exact ⟨by omega, not_or.2 ⟨hstanding, by omega⟩⟩
    · rintro ⟨hk, hstanding⟩
      obtain ⟨hstanding, hne⟩ := not_or.1 hstanding
      exact ⟨by omega, hstanding⟩
  · congr 1
    refine List.filterMap_congr fun k hk => ?_
    rw [List.getElem?_append_left ((hmem k).1 hk).1]

/-- A command that stands is torn down. -/
theorem tear (h : TornDown handed standing tags) {k : Nat} {c : DrawCommand} (hk : standing k)
    (hc : handed[k]? = some c) :
    TornDown handed (fun k' => standing k' ∧ k' ≠ k) (tags ++ torn c.tearDown) := by
  obtain ⟨order, hnodup, hmem, rfl⟩ := h
  have hnew : k ∉ order := fun hin => ((hmem k).1 hin).2 hk
  have hlt : k < handed.length := (List.getElem?_eq_some_iff.1 hc).1
  refine ⟨order ++ [k], ?_, fun k' => ?_, ?_⟩
  · exact List.nodup_append.2 ⟨hnodup, by simp, fun a ha b hb => by
      obtain rfl := List.mem_singleton.1 hb
      exact fun hab => hnew (hab ▸ ha)⟩
  · rw [List.mem_append, List.mem_singleton, hmem]
    constructor
    · rintro (⟨hk', hstanding⟩ | rfl)
      · exact ⟨hk', fun hboth => hstanding hboth.1⟩
      · exact ⟨hlt, fun hboth => hboth.2 rfl⟩
    · rintro ⟨hk', hstanding⟩
      by_cases heq : k' = k
      · exact .inr heq
      · exact .inl ⟨hk', fun hk'' => hstanding ⟨hk'', heq⟩⟩
  · simp [List.filterMap_append, List.flatMap_append, hc]

end TornDown

/-! ## Runs of calls -/

/-- What the log says of the tickets and the commands is so. -/
structure SlotRun.Orderly (x : SlotRun) : Prop where
  /-- The generations of the tickets are counted. -/
  tickets : x.tickets = (List.range x.slot.latest).map fun n => ⟨n + 1⟩
  installed : x.slot.installed ≤ x.slot.latest
  /-- The command that stands is active. -/
  active : ∀ a, x.slot.active = some a ↔
    ∃ k c frames, Stands x.log k c frames ∧ a = c.after frames
  /-- All the others have been torn down. -/
  tornDown : TornDown x.handed (fun k => ∃ c frames, Stands x.log k c frames) (torn x.events)

namespace SlotRun

variable {x : SlotRun}

theorem tickets_concat (x : SlotRun) (slot : CommandSlot) (e : SlotEntry)
    (events : List HookEvent) :
    tickets ⟨slot, x.log ++ [e], events⟩ = x.tickets ++ e.ticket?.toList := by
  cases hticket : e.ticket? <;> simp [tickets, hticket]

theorem handed_concat (x : SlotRun) (slot : CommandSlot) (e : SlotEntry)
    (events : List HookEvent) :
    handed ⟨slot, x.log ++ [e], events⟩ = x.handed ++ e.command?.toList := by
  cases hcommand : e.command? <;> simp [handed, hcommand]

theorem orderly_new : ({} : SlotRun).Orderly where
  tickets := rfl
  installed := Nat.le_refl 0
  active a := by simp [Stands]
  tornDown := ⟨[], List.nodup_nil, by simp [handed], rfl⟩

/-- The current ticket is the one that was issued last. -/
theorem Orderly.isCurrent_iff (h : x.Orderly) {ticket : BuildTicket}
    (hissued : ticket ∈ x.tickets) :
    x.slot.isCurrent ticket = true ↔ x.tickets.getLast? = some ticket := by
  rw [h.tickets] at hissued ⊢
  obtain ⟨n, hn, rfl⟩ := List.mem_map.1 hissued
  obtain ⟨m, hm⟩ : ∃ m, x.slot.latest = m + 1 := by
    have := List.mem_range.1 hn
    exact ⟨x.slot.latest - 1, by omega⟩
  simp [CommandSlot.isCurrent, hm, List.range_succ, eq_comm]

/-- Nothing stands when nothing is active. -/
theorem Orderly.not_stands (h : x.Orderly) (hnone : x.slot.active = none) (k : Nat) :
    ¬ ∃ c frames, Stands x.log k c frames := by
  rintro ⟨c, frames, hstands⟩
  have hactive := (h.active _).2 ⟨k, c, frames, hstands, rfl⟩
  simp [hnone] at hactive

/-- When the active command is given up, none stands. -/
theorem Orderly.tornDown_giveUp (h : x.Orderly) :
    TornDown x.handed (fun _ => False)
      (torn (x.events ++ x.slot.active.toList.flatMap DrawCommand.tearDown)) := by
  cases hactive : x.slot.active with
  | none =>
    simp only [Option.toList_none, List.flatMap_nil, List.append_nil]
    exact h.tornDown.congr fun k => iff_false_intro (h.not_stands hactive k)
  | some a =>
    obtain ⟨k, c, frames, hstands, rfl⟩ := (h.active a).1 hactive
    have htorn := h.tornDown.tear ⟨c, frames, hstands⟩ hstands.getElem?_handed
    simp only [Option.toList_some, List.flatMap_cons, List.flatMap_nil, List.append_nil,
      torn_append, DrawCommand.tearDown_after]
    refine htorn.congr fun k' => iff_false_intro ?_
    rintro ⟨⟨c', frames', hstands'⟩, hne⟩
    exact hne (hstands'.unique hstands)

/-! ### One call after another -/

theorem Orderly.begin (h : x.Orderly) : (x.after .begin).Orderly where
  tickets := by
    simp [SlotRun.after, CommandSlot.begin, tickets_concat, h.tickets, SlotEntry.ticket?,
      List.range_succ]
  installed := Nat.le_succ_of_le h.installed
  active a := by simpa [SlotRun.after, CommandSlot.begin, Stands.issued_iff] using h.active a
  tornDown := by
    simpa [SlotRun.after, CommandSlot.begin, Stands.issued_iff, handed_concat, SlotEntry.command?]
      using h.tornDown

/-- A command comes in time, and takes the place of the active one. -/
theorem Orderly.install (h : x.Orderly) {ticket : BuildTicket} (c : DrawCommand)
    (hcurrent : x.slot.isCurrent ticket = true) : (x.after (.install ticket c)).Orderly := by
  have hafter : x.after (.install ticket c) =
      { slot := { x.slot with active := some c, installed := ticket.generation }
        log := x.log ++ [.handed ticket c true]
        events := x.events ++ x.slot.active.toList.flatMap DrawCommand.tearDown } := by
    simp only [SlotRun.after, CommandSlot.install, hcurrent, if_true]
  rw [hafter]
  refine ⟨?_, ?_, fun a => ?_, ?_⟩
  · simpa [tickets_concat, SlotEntry.ticket?] using h.tickets
  · -- The ticket is the latest, so what stands now has its number.
    simp only [CommandSlot.isCurrent, decide_eq_true_eq] at hcurrent
    exact Nat.le_of_eq hcurrent
  · simp only [Stands.installed_iff, Option.some.injEq]
    constructor
    · rintro rfl
      exact ⟨_, c, [], ⟨rfl, rfl, rfl⟩, rfl⟩
    · rintro ⟨k, c', frames, ⟨rfl, -, rfl⟩, rfl⟩
      rfl
  · rw [handed_concat]
    refine (h.tornDown_giveUp.hand c).congr fun k => ?_
    simp [Stands.installed_iff, handed]

/-- A command comes too late, and is torn down itself. -/
theorem Orderly.late (h : x.Orderly) {ticket : BuildTicket} (c : DrawCommand)
    (hlate : x.slot.isCurrent ticket = false) : (x.after (.install ticket c)).Orderly := by
  have hafter : x.after (.install ticket c) =
      { slot := x.slot, log := x.log ++ [.handed ticket c false],
        events := x.events ++ c.tearDown } := by
    simp only [SlotRun.after, CommandSlot.install, hlate, Bool.false_eq_true, if_false]
  rw [hafter]
  refine ⟨?_, h.installed, fun a => ?_, ?_⟩
  · simpa [tickets_concat, SlotEntry.ticket?] using h.tickets
  · simpa only [Stands.late_iff] using h.active a
  · rw [handed_concat, torn_append]
    refine ((h.tornDown.hand c).tear (.inr rfl) List.getElem?_concat_length).congr fun k => ?_
    simp only [Stands.late_iff]
    constructor
    · rintro ⟨hstands | rfl, hne⟩
      · exact hstands
      · exact absurd rfl hne
    · rintro ⟨c', frames, hstands⟩
      have hlt : k < x.handed.length := (List.getElem?_eq_some_iff.1 hstands.getElem?_handed).1
      exact ⟨.inl ⟨c', frames, hstands⟩, Nat.ne_of_lt hlt⟩

/-- Frame hooks change the active command, and no teardown hook runs. -/
theorem Orderly.runFrameHooks (h : x.Orderly) (frame : FrameContext) :
    (x.after (.runFrameHooks frame)).Orderly := by
  simp only [SlotRun.after, CommandSlot.runFrameHooks_fst]
  refine ⟨?_, h.installed, fun a' => ?_, ?_⟩
  · simpa [tickets_concat, SlotEntry.ticket?] using h.tickets
  · simp only [Stands.framed_iff, Option.map_eq_some_iff, h.active]
    constructor
    · rintro ⟨a, ⟨k, c, frames, hstands, rfl⟩, rfl⟩
      exact ⟨k, c, _, ⟨frames, hstands, rfl⟩, (c.after_concat frames frame).symm⟩
    · rintro ⟨k, c, frames, ⟨frames', hstands, rfl⟩, rfl⟩
      exact ⟨_, ⟨k, c, frames', hstands, rfl⟩, (c.after_concat frames' frame).symm⟩
  · rw [handed_concat, torn_append, CommandSlot.torn_runFrameHooks, List.append_nil]
    refine TornDown.congr (by simpa [SlotEntry.command?] using h.tornDown) fun k => ?_
    simp only [Stands.framed_iff]
    exact ⟨fun ⟨c, frames, hstands⟩ => ⟨c, _, frames, hstands, rfl⟩,
      fun ⟨c, _, frames, hstands, _⟩ => ⟨c, frames, hstands⟩⟩

theorem Orderly.clear (h : x.Orderly) : (x.after .clear).Orderly where
  tickets := by
    simpa [SlotRun.after, CommandSlot.clear, tickets_concat, SlotEntry.ticket?] using h.tickets
  installed := h.installed
  active a := by simp [SlotRun.after, CommandSlot.clear, Stands.not_cleared]
  tornDown := by
    simpa [SlotRun.after, CommandSlot.clear, Stands.not_cleared, handed_concat,
      SlotEntry.command?] using h.tornDown_giveUp

/-- **Every call keeps the log true**, whether the command that it hands in is
the newest or comes too late. -/
theorem Orderly.after (h : x.Orderly) (call : SlotCall) : (x.after call).Orderly := by
  cases call with
  | begin => exact h.begin
  | install ticket c =>
    cases hcurrent : x.slot.isCurrent ticket with
    | true => exact h.install c hcurrent
    | false => exact h.late c hcurrent
  | runFrameHooks frame => exact h.runFrameHooks frame
  | clear => exact h.clear

theorem Orderly.run (h : x.Orderly) (calls : List SlotCall) : (run calls x).Orderly := by
  induction calls generalizing x with
  | nil => exact h
  | cons call calls ih => exact ih (h.after call)

/-- What is installed is never older than what was installed before. -/
theorem installed_le_after (h : x.Orderly) (call : SlotCall) :
    x.slot.installed ≤ (x.after call).slot.installed := by
  cases call with
  | install ticket c =>
    simp only [SlotRun.after, CommandSlot.install]
    split
    · rename_i hcurrent
      simp only [CommandSlot.isCurrent, decide_eq_true_eq] at hcurrent
      have := h.installed
      dsimp only
      omega
    · exact Nat.le_refl _
  | runFrameHooks frame =>
    simp only [SlotRun.after, CommandSlot.runFrameHooks_fst]
    exact Nat.le_refl _
  | begin | clear => exact Nat.le_refl _

theorem installed_le_run (h : x.Orderly) (calls : List SlotCall) :
    x.slot.installed ≤ (run calls x).slot.installed := by
  induction calls generalizing x with
  | nil => exact Nat.le_refl _
  | cons call calls ih =>
    have hstep := installed_le_after h call
    have hrest := ih (h.after call)
    exact Nat.le_trans hstep hrest

theorem run_append (earlier later : List SlotCall) (x : SlotRun) :
    run (earlier ++ later) x = run later (run earlier x) := by
  induction earlier generalizing x with
  | nil => rfl
  | cons call earlier ih => exact ih (x.after call)

theorem Entitled.of_append {earlier later : List SlotCall} (h : Entitled (earlier ++ later) x) :
    Entitled later (run earlier x) := by
  induction earlier generalizing x with
  | nil => exact h
  | cons call earlier ih =>
    cases call with
    | install ticket c => exact ih h.2
    | begin | runFrameHooks frame | clear => exact ih h

/-- **The newest build wins**, in whatever order builds end and whatever else
is asked of the slot. At every point of a run the log is true, the installed
generation is the highest so far, and a command is installed exactly if its
ticket was issued last. -/
theorem newest_build_wins {calls : List SlotCall} (hcalls : Entitled calls {})
    (earlier later : List SlotCall) (hsplit : calls = earlier ++ later) :
    (run earlier {}).Orderly ∧ (run earlier {}).slot.installed ≤ (run calls {}).slot.installed ∧
      ∀ ticket command rest, later = .install ticket command :: rest →
        (((run earlier {}).slot.install ticket command).2.1 = true ↔
          (run earlier {}).tickets.getLast? = some ticket) := by
  have horderly := orderly_new.run earlier
  subst hsplit
  refine ⟨horderly, ?_, fun ticket command rest hlater => ?_⟩
  · rw [run_append]
    exact installed_le_run horderly later
  · subst hlater
    obtain ⟨hissued, -⟩ := hcalls.of_append
    rw [← horderly.isCurrent_iff hissued, CommandSlot.install]
    cases hcurrent : (run earlier {}).slot.isCurrent ticket <;> simp

/-- Two builds end in the wrong order, a ticket is used three times, and the
slot is cleared before the last build ends. -/
theorem newest_build_wins_late :
    let command (tag : String) : DrawCommand :=
      { count := 1, attributes := [], uniforms := [], vert := tag, frag := "", blend := none,
        hooks := { teardown := [tag] } }
    let earlier : List SlotCall := [.begin, .begin, .install ⟨2⟩ (command "new")]
    let later : List SlotCall := [.install ⟨1⟩ (command "old"), .runFrameHooks ⟨0, 0, 1, 1⟩,
      .install ⟨2⟩ (command "again"), .begin, .install ⟨2⟩ (command "late"), .clear,
      .install ⟨3⟩ (command "last")]
    ((run earlier {}).slot.install ⟨1⟩ (command "old")).2.1 ≠ true ∧
      (run (earlier ++ later) {}).slot.active.map DrawCommand.vert = some "last" ∧
      torn (run (earlier ++ later) {}).events = ["old", "new", "late", "again"] := by
  intro command earlier later
  have hcalls : Entitled (earlier ++ later) {} := by
    simp [earlier, later, Entitled, SlotRun.after, SlotRun.tickets, SlotEntry.ticket?,
      CommandSlot.begin, CommandSlot.install, CommandSlot.isCurrent, CommandSlot.runFrameHooks]
  obtain ⟨-, -, hinstall⟩ := newest_build_wins hcalls earlier later rfl
  refine ⟨fun hnew => ?_, rfl, by decide +kernel⟩
  have hlast := (hinstall _ _ _ rfl).1 hnew
  revert hlast
  decide +kernel

end SlotRun

end ParticleTimeline
