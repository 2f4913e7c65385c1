import Mathlib.Data.List.Induction
import ParticleTimeline.Proofs.Glsl.Growth
/-!
# Nested marks

A mark only says how long the sections of a source were, so rolling back to it relies
on their still beginning with what they held then. A mark is live from when it is made
until somebody rolls back to an older one (`SourceOperation.Live`). While it is live,
the source has grown from what it was at the mark, and so has what it was at every
younger mark that is live (`SourceOperation.Kept`).

So a live mark is as good as a copy of the source: what is done to a source with marks
is what is done to one with copies (`SourceOperation.run_marked`). No cut falls inside
a character then, and every rollback restores the source
(`SourceOperation.rollback_restores`).
-/

namespace ParticleTimeline

/-- Something done to a source. The marks are numbered in the order they are made. -/
inductive SourceOperation where
  | declare (q : Qualifier) (type : GlslType) (name : String)
  | addGlobal (text : String)
  | addMain (text : String)
  | mark
  | rollback (number : Nat)
deriving DecidableEq

/-- A source with all marks that were made in it. -/
structure MarkedSource where
  source : ShaderSource
  marks : List Mark
deriving DecidableEq

/-- A source with a copy of what it was at each mark. -/
structure SavedSource where
  source : ShaderSource
  copies : List ShaderSource

/-- The source with marks in the place of the copies. -/
def SavedSource.marked (x : SavedSource) : MarkedSource where
  source := x.source
  marks := x.copies.map ShaderSource.mark

namespace SourceOperation

/-- The source with the text that an operation adds. -/
def add : SourceOperation → ShaderSource → ShaderSource
  | declare q type name, s => s.declare q type name
  | addGlobal text, s => s.addGlobal text
  | addMain text, s => s.addMain text
  | mark, s | rollback _, s => s

/-- What an operation leaves, or the fault it ends with. There is nothing to go back to
without a mark. -/
def perform : SourceOperation → MarkedSource → Except Fault MarkedSource
  | mark, x => .ok { x with marks := x.marks ++ [x.source.mark] }
  | rollback number, x =>
    match x.marks[number]? with
    | none => .ok x
    | some m =>
      match x.source.rollback m with
      | (source, none) => .ok { x with source }
      | (_, some fault) => .error fault
  | op, x => .ok { x with source := op.add x.source }

/-- What some operations leave, one after the other, up to a fault. -/
def run (ops : List SourceOperation) (x : MarkedSource) : Except Fault MarkedSource :=
  ops.foldlM (fun x op => op.perform x) x

/-- A mark is live once it is made, as long as nobody has rolled back to an older one
since. -/
def Live (history : List SourceOperation) (number : Nat) : Prop :=
  ∃ before since, history = before ++ .mark :: since ∧ before.count .mark = number ∧
    ∀ other, .rollback other ∈ since → number ≤ other

/-- Every rollback is to a mark that is live. -/
def Nested (ops : List SourceOperation) : Prop :=
  ∀ history number rest, ops = history ++ .rollback number :: rest → Live history number

/-- What an operation leaves when a rollback is to a copy. -/
def performSaved : SourceOperation → SavedSource → SavedSource
  | mark, x => { x with copies := x.copies ++ [x.source] }
  | rollback number, x => { x with source := x.copies[number]?.getD x.source }
  | op, x => { x with source := op.add x.source }

/-- What some operations leave when rollbacks are to copies. -/
def runSaved (ops : List SourceOperation) (x : SavedSource) : SavedSource :=
  ops.foldl (fun x op => op.performSaved x) x

end SourceOperation

/-! ## Growth -/

namespace ShaderSource

/-- A source is another one with further text. -/
def GrownFrom (s base : ShaderSource) : Prop := ∃ t, s = base.extend t

/-- A source has grown from what it was at a mark. -/
def GrownSince (s : ShaderSource) (copies : List ShaderSource) (number : Nat) : Prop :=
  ∃ copy, copies[number]? = some copy ∧ s.GrownFrom copy

variable {s base : ShaderSource} {copies : List ShaderSource} {number : Nat}

theorem GrownFrom.refl (s : ShaderSource) : s.GrownFrom s := ⟨.blank, (extend_blank s).symm⟩

theorem GrownFrom.since (h : s.GrownFrom base) (hbase : base.GrownSince copies number) :
    s.GrownSince copies number := by
  obtain ⟨t, rfl⟩ := h
  obtain ⟨copy, hcopy, u, rfl⟩ := hbase
  exact ⟨copy, hcopy, u ++ t, extend_extend _ _ _⟩

theorem GrownSince.lt_length (h : s.GrownSince copies number) : number < copies.length := by
  obtain ⟨copy, hcopy, -⟩ := h
  exact (List.getElem?_eq_some_iff.1 hcopy).1

theorem GrownSince.concat (h : s.GrownSince copies number) (last : ShaderSource) :
    s.GrownSince (copies ++ [last]) number := by
  have hnumber := h.lt_length
  obtain ⟨copy, hcopy, hgrown⟩ := h
  exact ⟨copy, by rw [List.getElem?_append_left hnumber, hcopy], hgrown⟩

end ShaderSource

namespace SourceOperation

variable {ops rest : List SourceOperation} {op : SourceOperation} {number : Nat}

theorem add_grownFrom (op : SourceOperation) (s : ShaderSource) : (op.add s).GrownFrom s := by
  cases op with
  | declare q type name => exact ⟨_, ShaderSource.declare_eq_extend s q type name⟩
  | addGlobal text => exact ⟨_, ShaderSource.addGlobal_eq_extend s text⟩
  | addMain text => exact ⟨_, ShaderSource.addMain_eq_extend s text⟩
  | mark | rollback => exact .refl s

/-! ## Live marks -/

/-- One more operation leaves live what it does not go back behind, and a new mark is
live. -/
theorem live_concat : Live (ops ++ [op]) number ↔
    (Live ops number ∧ ∀ other, op = .rollback other → number ≤ other) ∨
      (op = .mark ∧ ops.count .mark = number) := by
  constructor
  · rintro ⟨before, since, hops, hcount, hsince⟩
    rcases since.eq_nil_or_concat with rfl | ⟨since, last, rfl⟩
    · obtain ⟨rfl, hop⟩ := List.append_inj' hops rfl
      exact .inr ⟨List.singleton_inj.1 hop, hcount⟩
    · rw [List.concat_eq_append, ← List.cons_append, ← List.append_assoc] at hops
      obtain ⟨rfl, hop⟩ := List.append_inj' hops rfl
      obtain rfl := List.singleton_inj.1 hop
      refine .inl ⟨⟨before, since, rfl, hcount, fun other hother => ?_⟩, fun other hother => ?_⟩
      · exact hsince other (by simp [hother])
      · exact hsince other (by simp [hother])
  · rintro (⟨⟨before, since, rfl, hcount, hsince⟩, hop⟩ | ⟨rfl, hcount⟩)
    · refine ⟨before, since ++ [op], by simp, hcount, fun other hother => ?_⟩
      rcases List.mem_append.1 hother with hbefore | hlast
      · exact hsince other hbefore
      · exact hop other (List.mem_singleton.1 hlast).symm
    · exact ⟨ops, [], rfl, hcount, nofun⟩

theorem Nested.left (h : Nested (ops ++ rest)) : Nested ops := by
  rintro history number rest' rfl
  exact h history number (rest' ++ rest) (by simp)

theorem Nested.live_last (h : Nested (ops ++ [op])) (hop : op = .rollback number) :
    Live ops number := by
  subst hop
  exact h ops number [] rfl

theorem Live.of_concat (h : Live (ops ++ [op]) number) (hop : op ≠ .mark) :
    Live ops number ∧ ∀ other, op = .rollback other → number ≤ other := by
  rcases live_concat.1 h with hlive | ⟨hmark, -⟩
  · exact hlive
  · exact absurd hmark hop

/-! ## Checking -/

/-- The marks that are live after one more operation, when so many were made before. -/
def survivors (made : Nat) (live : List Nat) : SourceOperation → List Nat
  | mark => made :: live
  | rollback number => live.filter (· ≤ number)
  | declare .. | addGlobal _ | addMain _ => live

/-- Whether an operation, if it is a rollback, is to a live mark. -/
def allowed (live : List Nat) : SourceOperation → Bool
  | rollback number => live.contains number
  | declare .. | addGlobal _ | addMain _ | mark => true

/-- Whether every rollback is to a mark that is live, one operation after the other. -/
def isNested (made : Nat) (live : List Nat) : List SourceOperation → Bool
  | [] => true
  | op :: ops => op.allowed live && isNested (made + [op].count .mark) (op.survivors made live) ops

variable {history : List SourceOperation} {live : List Nat}

theorem mem_survivors (hlive : ∀ number, number ∈ live ↔ Live history number) (number : Nat) :
    number ∈ op.survivors (history.count .mark) live ↔ Live (history ++ [op]) number := by
  rw [live_concat]
  cases op with
  | mark => simp [survivors, hlive, or_comm, eq_comm]
  | rollback other => simp [survivors, hlive]
  | declare | addGlobal | addMain => simp [survivors, hlive]

theorem allowed_iff (hlive : ∀ number, number ∈ live ↔ Live history number) :
    op.allowed live = true ↔ ∀ number, op = .rollback number → Live history number := by
  cases op <;> simp [allowed, hlive]

theorem isNested_iff (hlive : ∀ number, number ∈ live ↔ Live history number) :
    isNested (history.count .mark) live ops = true ↔ ∀ since number rest,
      ops = since ++ .rollback number :: rest → Live (history ++ since) number := by
  induction ops generalizing history live with
  | nil => simp [isNested]
  | cons op ops ih =>
    rw [isNested, Bool.and_eq_true, allowed_iff hlive, ← List.count_append,
      ih (mem_survivors hlive)]
    -- The first operation comes now, and the others with it in the history.
    constructor
    · rintro ⟨hnow, hlater⟩ since number rest hsplit
      rcases since with _ | ⟨first, since⟩
      · rw [List.append_nil]
        exact hnow number (List.cons.inj hsplit).1
      · obtain ⟨rfl, htail⟩ := List.cons.inj hsplit
        rw [List.append_cons]
        exact hlater since number rest htail
    · intro hall
      refine ⟨fun number hop => ?_, fun since number rest hsplit => ?_⟩
      · have hlive := hall [] number ops (by rw [hop]; rfl)
        rwa [List.append_nil] at hlive
      · have hlive := hall (op :: since) number rest (by rw [hsplit]; rfl)
        rwa [List.append_cons] at hlive

theorem not_live_nil (number : Nat) : ¬ Live [] number := by
  rintro ⟨before, since, hsplit, -⟩
  exact List.append_ne_nil_of_right_ne_nil _ (List.cons_ne_nil _ _) hsplit.symm

instance : DecidablePred Nested := fun ops =>
  decidable_of_iff (isNested 0 [] ops = true) (@isNested_iff ops [] [] (by simp [not_live_nil]))

/-! ## Copies -/

/-- What is known of the copies after some operations. There is one for every mark, and
the source has grown from those of the live marks, as has each of these from the ones
before. -/
structure Kept (ops : List SourceOperation) (x : SavedSource) : Prop where
  count : x.copies.length = ops.count .mark
  grown : ∀ number, Live ops number → x.source.GrownSince x.copies number
  chain : ∀ number copy, Live ops number → x.copies[number]? = some copy →
    ∀ older ≤ number, Live ops older → copy.GrownSince x.copies older

variable {x : SavedSource}

theorem kept_nil (s : ShaderSource) : Kept [] ⟨s, []⟩ where
  count := rfl
  grown number h := absurd h (not_live_nil number)
  chain number _ h := absurd h (not_live_nil number)

/-- Without a new mark it only matters what the source has become. -/
theorem Kept.concat_of_ne (h : Kept ops x) (hop : op ≠ .mark) {s : ShaderSource}
    (hgrown : ∀ number, Live (ops ++ [op]) number → s.GrownSince x.copies number) :
    Kept (ops ++ [op]) { x with source := s } where
  count := by
    rw [List.count_append, List.count_singleton, if_neg (by simpa using hop), Nat.add_zero]
    exact h.count
  grown := hgrown
  chain number copy hnumber hcopy older hle holder :=
    h.chain number copy (hnumber.of_concat hop).1 hcopy older hle (holder.of_concat hop).1

/-- Text that is added leaves the source grown from all that it had grown from. -/
theorem Kept.concat_add (h : Kept ops x) (hop : op ≠ .mark) :
    Kept (ops ++ [op]) { x with source := op.add x.source } :=
  h.concat_of_ne hop fun number hnumber =>
    (add_grownFrom op x.source).since (h.grown number (hnumber.of_concat hop).1)

/-- A copy back in the place of the source has grown from those before it, and only
their marks are still live. -/
theorem Kept.concat_rollback (h : Kept ops x) (hlive : Live ops number) :
    Kept (ops ++ [.rollback number]) ((rollback number).performSaved x) := by
  obtain ⟨copy, hcopy, -⟩ := h.grown number hlive
  rw [performSaved, hcopy]
  refine h.concat_of_ne (by simp) fun older holder => ?_
  obtain ⟨holder, hle⟩ := holder.of_concat (by simp)
  exact h.chain number copy hlive hcopy older (hle number rfl) holder

theorem Kept.concat_mark (h : Kept ops x) : Kept (ops ++ [.mark]) (mark.performSaved x) := by
  have hlast : (x.copies ++ [x.source])[ops.count .mark]? = some x.source := by
    rw [← h.count, List.getElem?_concat_length]
  have hgrown : ∀ number, Live (ops ++ [.mark]) number →
      x.source.GrownSince (x.copies ++ [x.source]) number := by
    intro number hnumber
    rcases live_concat.1 hnumber with ⟨hlive, -⟩ | ⟨-, rfl⟩
    · exact (h.grown number hlive).concat _
    · exact ⟨x.source, hlast, .refl _⟩
  refine ⟨by simp [performSaved, h.count], hgrown, ?_⟩
  intro number copy hnumber hcopy older hle holder
  rw [performSaved] at hcopy
  rcases live_concat.1 hnumber with ⟨hlive, -⟩ | ⟨-, rfl⟩
  · have hlt := (h.grown number hlive).lt_length
    rw [List.getElem?_append_left hlt] at hcopy
    -- No mark before one that was live already can be the new one.
    rcases live_concat.1 holder with ⟨holder, -⟩ | ⟨-, rfl⟩
    · exact (h.chain number copy hlive hcopy older hle holder).concat _
    · rw [h.count] at hlt
      omega
  · obtain rfl : x.source = copy := Option.some.inj (hlast.symm.trans hcopy)
    exact hgrown older holder

/-- **What is done keeps the copies.** -/
theorem Kept.concat (h : Kept ops x) (hop : ∀ number, op = .rollback number → Live ops number) :
    Kept (ops ++ [op]) (op.performSaved x) := by
  cases op with
  | declare | addGlobal | addMain => exact h.concat_add (by simp)
  | mark => exact h.concat_mark
  | rollback number => exact h.concat_rollback (hop number rfl)

/-- **A live mark is as good as a copy.** -/
theorem Kept.perform_marked (h : Kept ops x)
    (hop : ∀ number, op = .rollback number → Live ops number) :
    op.perform x.marked = .ok (op.performSaved x).marked := by
  cases op with
  | declare | addGlobal | addMain => rfl
  | mark => simp [perform, performSaved, SavedSource.marked]
  | rollback number =>
    obtain ⟨copy, hcopy, t, hgrown⟩ := h.grown number (hop number rfl)
    have hmark : x.marked.marks[number]? = some copy.mark := by
      rw [SavedSource.marked, List.getElem?_map, hcopy]
      rfl
    have hroll : x.marked.source.rollback copy.mark = (copy, none) := by
      rw [SavedSource.marked, hgrown, ShaderSource.rollback_mark_extend]
    simp only [perform, hmark, hroll, performSaved, hcopy]
    rfl

/-! ## Many operations -/

theorem run_concat (ops : List SourceOperation) (op : SourceOperation) (x : MarkedSource) :
    run (ops ++ [op]) x = (run ops x).bind op.perform := by
  simp only [run, List.foldlM_append, List.foldlM_cons, List.foldlM_nil, bind_pure]
  rfl

theorem runSaved_append (ops rest : List SourceOperation) (x : SavedSource) :
    runSaved (ops ++ rest) x = runSaved rest (runSaved ops x) := List.foldl_append

/-- **Marks are as good as copies**, whatever is done to a source, as long as every
rollback is to a mark that is live. -/
theorem run_marked (h : Nested ops) (s : ShaderSource) : Kept ops (runSaved ops ⟨s, []⟩) ∧
    run ops ⟨s, []⟩ = .ok (runSaved ops ⟨s, []⟩).marked := by
  induction ops using List.reverseRecOn with
  | nil => exact ⟨kept_nil s, rfl⟩
  | append_singleton ops op ih =>
    obtain ⟨hkept, hrun⟩ := ih h.left
    have hlive : ∀ number, op = .rollback number → Live ops number := fun _ => h.live_last
    rw [runSaved_append, run_concat, hrun]
    exact ⟨hkept.concat hlive, hkept.perform_marked hlive⟩

theorem copies_prefix (ops : List SourceOperation) (x : SavedSource) :
    x.copies <+: (runSaved ops x).copies := by
  induction ops generalizing x with
  | nil => exact List.prefix_rfl
  | cons op ops ih =>
    refine List.IsPrefix.trans ?_ (ih (op.performSaved x))
    cases op with
    | mark => exact List.prefix_append _ _
    | declare | addGlobal | addMain | rollback => exact List.prefix_rfl

/-- What is copied at a mark stays under its number. -/
theorem Kept.copy_of_mark (h : Kept ops x) (between : List SourceOperation) :
    (runSaved (.mark :: between) x).copies[ops.count .mark]? = some x.source := by
  obtain ⟨later, hlater⟩ := copies_prefix between (mark.performSaved x)
  have hcopies : (runSaved (.mark :: between) x).copies = x.copies ++ x.source :: later := by
    refine hlater.symm.trans ?_
    rw [performSaved, List.append_assoc]
    rfl
  rw [hcopies, ← h.count, List.getElem?_append_right (Nat.le_refl _), Nat.sub_self]
  rfl

/-- **Every rollback restores the source**, as long as each is to a mark that is live:
nothing is cut inside a character, and all sections are what they were when the mark was
made, whatever was added or rolled back in between. -/
theorem rollback_restores (h : Nested ops) (s : ShaderSource) :
    (∃ x, run ops ⟨s, []⟩ = .ok x) ∧
      ∀ before between rest,
        ops = before ++ .mark :: between ++ .rollback (before.count .mark) :: rest →
          ∃ x y, run before ⟨s, []⟩ = .ok x ∧
            run (before ++ .mark :: between ++ [.rollback (before.count .mark)]) ⟨s, []⟩ = .ok y ∧
            y.source = x.source ∧ y.source.compile = x.source.compile := by
  refine ⟨⟨_, (run_marked h s).2⟩, ?_⟩
  rintro before between rest rfl
  rw [List.append_cons] at h
  have hthere := run_marked h.left.left.left s
  have hback := run_marked h.left s
  have hsource : (runSaved (before ++ .mark :: between ++ [.rollback (before.count .mark)])
      ⟨s, []⟩).source = (runSaved before ⟨s, []⟩).source := by
    rw [runSaved_append, runSaved_append]
    change Option.getD (_[_]?) _ = _
    rw [hthere.1.copy_of_mark between]
    rfl
  exact ⟨_, _, hthere.2, hback.2, hsource, congrArg ShaderSource.compile hsource⟩

/-- Two rollbacks to one mark, with another mark in between. -/
def twice : List SourceOperation :=
  [.declare .uniform .float "ü", .mark, .addGlobal "// ß", .rollback 1, .mark, .addMain "x",
    .rollback 1, .addMain "y"]

/-- Inside of a mark that is rolled back to in the end. -/
theorem rollback_restores_twice : Nested ([.addMain "é"] ++ .mark :: twice ++ [.rollback 0]) ∧
    ∃ x y, run [.addMain "é"] ⟨.empty .vertex, []⟩ = .ok x ∧
      run ([.addMain "é"] ++ .mark :: twice ++ [.rollback 0]) ⟨.empty .vertex, []⟩ = .ok y ∧
      y.source = x.source := by
  have hnested : Nested ([.addMain "é"] ++ .mark :: twice ++ [.rollback 0]) := by decide
  obtain ⟨x, y, hx, hy, hsource, -⟩ :=
    (rollback_restores hnested (.empty .vertex)).2 [.addMain "é"] twice [] rfl
  exact ⟨hnested, x, y, hx, hy, hsource⟩

/-- A mark that is not live any more can be inside of a character. -/
example : run [.mark, .addMain "\n", .mark, .rollback 0, .addMain "é", .rollback 1]
    ⟨.empty .vertex, []⟩ = .error .splitCharacter := by
  decide

end SourceOperation

end ParticleTimeline
