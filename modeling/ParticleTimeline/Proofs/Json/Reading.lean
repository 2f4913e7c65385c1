import Mathlib.Tactic.SplitIfs
import ParticleTimeline.Proofs.Json.FreeForm
import ParticleTimeline.Proofs.Number.Finite
/-!
# What the reader gives

A decimal that is scaled is finite, since a scaling that leaves the doubles is
an error (`Json.Reader.isFinite_scaleByTen`). So every number that is read is
plain (`Json.Reader.number_plain`). What a visitor keeps from member to member
holds behind an object (`Json.Reader.membersSteps_keeps`); hence every value
that is read is plain, and nests less deep than the reader would go
(`Json.Reader.value_plain`); and every such value has a text
(`Json.Plain.read_pretty`).
-/

namespace ParticleTimeline

namespace Json

namespace Reader

/-! ## Numbers -/

/-- **A scaled number is finite.** -/
theorem isFinite_scaleByTen {gathered : Nat} {exponent : Int} {x : Float}
    (h : scaleByTen gathered exponent = some x) : x.isFinite = true := by
  have hstart := Binary.within_toFloat (UInt64.ofNat gathered)
  unfold scaleByTen at h
  dsimp only at h
  split_ifs at h with hlarge hzero hup hinf hdown htwice
  · obtain rfl := Option.some.inj h
    exact Binary.isFinite_of_within hstart
  · obtain rfl := Option.some.inj h
    have hpower := Binary.reachesOne_ofScientific (k := exponent.toNat) (by omega)
    exact Binary.isFinite_mul (Binary.isFinite_of_within hstart)
      (Binary.isFinite_of_reachesOne hpower) (Bool.eq_false_iff.2 hinf)
  · obtain rfl := Option.some.inj h
    have hpower := Binary.reachesOne_ofScientific (k := (-exponent).toNat) (by omega)
    exact Binary.isFinite_of_within (Binary.within_divide hstart hpower (by decide) (by decide))
  · obtain rfl := Option.some.inj h
    have hlargest := Binary.reachesOne_ofScientific (k := 308) (by decide)
    have hfirst := Binary.within_divide hstart hlargest (by decide) (by decide)
    have hpower := Binary.reachesOne_ofScientific (k := (-(exponent + 308)).toNat) (by omega)
    exact Binary.isFinite_of_within (Binary.within_divide hfirst hpower (by decide) (by decide))
  · obtain rfl := Option.some.inj h
    decide

variable {negative : Bool} {n : JsonNumber} {cs rest : List Char}

theorem finish_plain {gathered : Nat} {exponent : Int}
    (h : finish negative gathered exponent cs = .ok (n, rest)) : n.Plain := by
  unfold finish at h
  split at h
  · rename_i x hscale
    obtain ⟨rfl, -⟩ := Prod.mk.inj (Except.ok.inj h)
    have hfinite := isFinite_scaleByTen hscale
    refine .double ?_
    split
    · exact Binary.isFinite_neg hfinite
    · exact hfinite
  · cases h

theorem exponentDigits_plain {gathered : Nat} {places : Int} {down : Bool}
    (h : exponentDigits true negative gathered places down cs = .ok (n, rest)) : n.Plain := by
  unfold exponentDigits at h
  simp only [Bool.not_true, Bool.false_eq_true, if_false] at h
  split at h
  · split at h <;> cases h
  · split at h
    · exact finish_plain h
    · split at h
      · cases h
      · obtain ⟨rfl, -⟩ := Prod.mk.inj (Except.ok.inj h)
        refine .double ?_
        cases negative <;> decide

theorem exponentPart_plain {gathered : Nat} {places : Int}
    (h : exponentPart true negative gathered places cs = .ok (n, rest)) : n.Plain := by
  unfold exponentPart at h
  split at h <;> exact exponentDigits_plain h

theorem scalePart_plain {gathered : Nat} {exponent : Int}
    (h : scalePart true negative gathered exponent cs = .ok (n, rest)) : n.Plain := by
  unfold scalePart at h
  split at h
  · exact exponentPart_plain h
  · exact exponentPart_plain h
  · exact finish_plain h

theorem wholePart_plain {gathered places : Nat}
    (h : wholePart true negative gathered places cs = .ok (n, rest)) : n.Plain := by
  unfold wholePart at h
  simp only [Bool.not_true, Bool.false_eq_true, if_false] at h
  split_ifs at h with hplaces hnegative hsize
  · exact finish_plain h
  · obtain ⟨rfl, -⟩ := Prod.mk.inj (Except.ok.inj h)
    exact .natural _
  · obtain ⟨rfl, -⟩ := Prod.mk.inj (Except.ok.inj h)
    exact .double (Binary.isFinite_neg (Binary.isFinite_of_within (Binary.within_toFloat _)))
  · obtain ⟨rfl, -⟩ := Prod.mk.inj (Except.ok.inj h)
    simp only [Bool.or_eq_true, decide_eq_true_eq, not_or, UInt64.size] at hsize
    refine .negative (Int64.lt_iff_toInt_lt.2 ?_)
    rw [Int64.toInt_ofInt_of_le (by omega) (by omega)]
    change -(gathered : Int) < 0
    omega

theorem fractionPart_plain {gathered places : Nat}
    (h : fractionPart true negative gathered places cs = .ok (n, rest)) : n.Plain := by
  unfold fractionPart at h
  split at h
  · dsimp only at h
    split at h
    · cases h
    · exact scalePart_plain h
  · exact exponentPart_plain h
  · exact exponentPart_plain h
  · exact wholePart_plain h

/-- **A number that is read** is whole and in its range, or a finite double. -/
theorem number_plain (h : number true negative cs = .ok (n, rest)) : n.Plain := by
  unfold number at h
  split at h
  · cases h
  · split at h
    · split at h
      · cases h
      · exact fractionPart_plain h
    · exact fractionPart_plain h
  · split at h
    · exact fractionPart_plain h
    · cases h

/-! ## Visitors -/

section Visitors

variable {σ τ : Type} {paired first : Bool} {cs rest : List Char}

/-- The name of a member behind its opening quote, with what is behind its colon. -/
def memberName (paired : Bool) (cs : List Char) : Except Failure (Option String × List Char) :=
  string paired cs >>= fun read =>
    match skipBlanks read.2 with
    | [] => failHere .endInObject []
    | ':' :: cs => .ok (some read.1, cs)
    | cs => failNext .colonExpected cs

/-- What comes next in an object: the name of a member, or nothing behind the
closing brace. -/
def nextMember (paired first : Bool) (cs : List Char) :
    Except Failure (Option String × List Char) :=
  match skipBlanks cs with
  | [] => failHere .endInObject []
  | c :: cs =>
    if c = '\x7d' then .ok (none, cs)
    else if first then
      if c = '"' then memberName paired cs else failNext .keyNotString (c :: cs)
    else if c = ',' then
      match skipBlanks cs with
      | [] => failHere .endInValue []
      | d :: cs =>
        if d = '"' then memberName paired cs
        else if d = '\x7d' then failNext .trailingComma (d :: cs)
        else failNext .keyNotString (d :: cs)
    else failNext .objectCommaOrEndExpected (c :: cs)

/-- Hands the next member to a visitor, and goes on. -/
def visitNext (paired : Bool) (visit : σ → String → Reader σ) (n : Nat) (s : σ) :
    Option String × List Char → Except Failure (σ × List Char)
  | (none, cs) => .ok (s, cs)
  | (some name, cs) => visit s name cs >>= fun read =>
    membersSteps paired visit n false read.1 read.2

/-- **One step through an object.** -/
theorem membersSteps_succ (visit : σ → String → Reader σ) (n : Nat) (s : σ) :
    membersSteps paired visit (n + 1) first s cs
      = nextMember paired first cs >>= visitNext paired visit n s := by
  conv_lhs => unfold membersSteps
  extract_lets member
  have hmember : ∀ cs, member cs = memberName paired cs >>= visitNext paired visit n s := by
    intro cs
    simp only [member, memberName]
    cases string paired cs with
    | error e => rfl
    | ok read =>
      change (match skipBlanks read.2 with
        | [] => _ | ':' :: cs => _ | cs => _) = (match skipBlanks read.2 with
        | [] => _ | ':' :: cs => _ | cs => _) >>= _
      split <;> rfl
  split
  · rename_i hskip
    rw [nextMember, hskip]
    rfl
  · rename_i hskip
    rw [nextMember, hskip]
    rfl
  · rename_i c cs' hbrace hskip
    have hne : c ≠ '\x7d' := by
      rintro rfl
      exact hbrace rfl
    rw [nextMember, hskip]
    simp only [if_neg hne]
    split_ifs
    · exact hmember _
    · rfl
    · cases skipBlanks cs' with
      | nil => rfl
      | cons d ds =>
        dsimp only
        split_ifs
        · exact hmember _
        · rfl
        · rfl
    · rfl

end Visitors

section Keeps

variable {σ : Type} {P : σ → Prop}

/-- **What a visitor keeps** holds behind the elements. -/
theorem elementsSteps_keeps {visit : σ → Reader σ}
    (hvisit : ∀ s cs s' rest, P s → visit s cs = .ok (s', rest) → P s') {fuel : Nat} {first : Bool}
    {s s' : σ} {cs rest : List Char} (hs : P s)
    (h : elementsSteps visit fuel first s cs = .ok (s', rest)) : P s' := by
  induction fuel generalizing first s cs with
  | zero => cases h
  | succ fuel ih =>
    have hstep : ∀ {cs : List Char}, (visit s cs >>= fun read =>
        elementsSteps visit fuel false read.1 read.2) = .ok (s', rest) → P s' := by
      intro cs h
      obtain ⟨read, hread, h⟩ := ok_of_bind h
      exact ih (hvisit s cs read.1 read.2 hs hread) h
    unfold elementsSteps at h
    split at h
    · cases h
    · obtain ⟨rfl, -⟩ := Prod.mk.inj (Except.ok.inj h)
      exact hs
    · split_ifs at h with hfirst hcomma
      · exact hstep h
      · split at h
        · cases h
        · cases h
        · exact hstep h
      · cases h

/-- **What a visitor keeps** holds behind the members. -/
theorem membersSteps_keeps {visit : σ → String → Reader σ}
    (hvisit : ∀ s name cs s' rest, P s → visit s name cs = .ok (s', rest) → P s') {paired : Bool}
    {fuel : Nat} {first : Bool} {s s' : σ} {cs rest : List Char} (hs : P s)
    (h : membersSteps paired visit fuel first s cs = .ok (s', rest)) : P s' := by
  induction fuel generalizing first s cs with
  | zero => cases h
  | succ fuel ih =>
    rw [membersSteps_succ] at h
    obtain ⟨⟨name | name, behind⟩, -, h⟩ := ok_of_bind h
    · obtain ⟨rfl, -⟩ := Prod.mk.inj (Except.ok.inj h)
      exact hs
    · obtain ⟨read, hread, h⟩ := ok_of_bind h
      exact ih (hvisit s name behind read.1 read.2 hs hread) h

end Keeps

section Visitors

variable {σ τ : Type} {paired first : Bool} {cs rest : List Char}

theorem bind_eq_ok_iff {ε α β : Type} {x : Except ε α} {f : α → Except ε β} {b : β} :
    x >>= f = .ok b ↔ ∃ a, x = .ok a ∧ f a = .ok b := by
  refine ⟨ok_of_bind, ?_⟩
  rintro ⟨a, rfl, h⟩
  exact h

/-- **Two visitors of the same members.** What the first one holds is computed
from what the second one does, as long as that is possible; once it is not, it
stays so, and the first one has stopped. -/
theorem membersSteps_eq_ok_iff {visit : σ → String → Reader σ} {visit' : τ → String → Reader τ}
    {f : τ → Option σ}
    (hstep : ∀ s t name cs s' rest, f t = some s → (visit s name cs = .ok (s', rest) ↔
      ∃ t', visit' t name cs = .ok (t', rest) ∧ f t' = some s'))
    (hstop : ∀ t name cs t' rest, f t = none → visit' t name cs = .ok (t', rest) → f t' = none)
    {fuel : Nat} {s s' : σ} {t : τ} (h : f t = some s) :
    membersSteps paired visit fuel first s cs = .ok (s', rest) ↔
      ∃ t', membersSteps paired visit' fuel first t cs = .ok (t', rest) ∧ f t' = some s' := by
  induction fuel generalizing first s t cs with
  | zero => exact ⟨nofun, fun ⟨_, hread, _⟩ => nomatch hread⟩
  | succ fuel ih =>
    rw [membersSteps_succ, membersSteps_succ]
    rcases nextMember paired first cs with e | ⟨name | name, behind⟩
    · exact ⟨nofun, fun ⟨_, hread, _⟩ => nomatch hread⟩
    · change Except.ok (s, behind) = .ok (s', rest) ↔
        ∃ t', Except.ok (t, behind) = .ok (t', rest) ∧ f t' = some s'
      simp only [Except.ok.injEq, Prod.mk.injEq]
      constructor
      · rintro ⟨rfl, rfl⟩
        exact ⟨t, ⟨rfl, rfl⟩, h⟩
      · rintro ⟨t', ⟨rfl, rfl⟩, hs'⟩
        exact ⟨Option.some.inj (h.symm.trans hs'), rfl⟩
    · change (visit s name behind >>= _) = _ ↔ ∃ t', (visit' t name behind >>= _) = _ ∧ _
      constructor
      · intro hread
        obtain ⟨⟨s₁, left⟩, hvisit, hread⟩ := ok_of_bind hread
        obtain ⟨t₁, hvisit', h₁⟩ := (hstep s t name behind s₁ left h).1 hvisit
        obtain ⟨t', hread', hs'⟩ := (ih h₁).1 hread
        exact ⟨t', bind_eq_ok_iff.2 ⟨_, hvisit', hread'⟩, hs'⟩
      · rintro ⟨t', hread', hs'⟩
        obtain ⟨⟨t₁, left⟩, hvisit', hread'⟩ := ok_of_bind hread'
        -- What is possible in the end was possible all the time.
        cases h₁ : f t₁ with
        | none =>
          have hnone : f t' = none := membersSteps_keeps (P := fun t => f t = none) hstop h₁ hread'
          rw [hnone] at hs'
          cases hs'
        | some s₁ =>
          have hvisit := (hstep s t name behind s₁ left h).2 ⟨t₁, hvisit', h₁⟩
          exact bind_eq_ok_iff.2 ⟨_, hvisit, (ih h₁).2 ⟨t', hread', hs'⟩⟩

end Visitors

/-! ## Values -/

theorem takeItem_keeps {k depth : Nat}
    (hvalue : ∀ {cs rest v}, value true depth cs = .ok (v, rest) → v.Plain k)
    (items : List Json) (cs : List Char) (items' : List Json) (rest : List Char)
    (hitems : ∀ v ∈ items, v.Plain k) (h : takeItem depth items cs = .ok (items', rest)) :
    ∀ v ∈ items', v.Plain k := by
  obtain ⟨read, hread, h⟩ := ok_of_bind h
  obtain ⟨rfl, -⟩ := Prod.mk.inj (Except.ok.inj h)
  exact List.forall_mem_cons.2 ⟨hvalue hread, hitems⟩

theorem takeMember_keeps {k depth : Nat}
    (hvalue : ∀ {cs rest v}, value true depth cs = .ok (v, rest) → v.Plain k)
    (entries : List (String × Json)) (name : String) (cs : List Char)
    (entries' : List (String × Json)) (rest : List Char)
    (hentries : ∀ e ∈ entries, e.2.Plain k)
    (h : takeMember depth entries name cs = .ok (entries', rest)) :
    ∀ e ∈ entries', e.2.Plain k := by
  obtain ⟨read, hread, h⟩ := ok_of_bind h
  obtain ⟨rfl, -⟩ := Prod.mk.inj (Except.ok.inj h)
  exact List.forall_mem_cons.2 ⟨hvalue hread, hentries⟩

/-- **Every value that is read is plain**, and nests less deep than the reader
would go. -/
theorem value_plain {k : Nat} {cs rest : List Char} {v : Json}
    (h : value true (k + 1) cs = .ok (v, rest)) : v.Plain k := by
  induction k using Nat.strongRecOn generalizing cs rest v with
  | ind k ih =>
    rcases value_cases h with rfl | ⟨b, rfl⟩ | ⟨s, rfl⟩ | ⟨n, cs', rfl, -, hnumber⟩ |
      ⟨n, c, cs', rfl, -, -, hnumber⟩ | ⟨d, items, cs', rfl, rfl, -, hread⟩ |
      ⟨d, entries, cs', rfl, rfl, -, hread⟩
    · exact .null k
    · exact .bool k b
    · exact .text k s
    · exact .number k (number_plain hnumber)
    · exact .number k (number_plain hnumber)
    · have hitems : ∀ v ∈ items, v.Plain d :=
        elementsSteps_keeps (takeItem_keeps (ih d (Nat.lt_succ_self d))) (by simp) hread
      exact .array fun v hv => hitems v (List.mem_reverse.1 hv)
    · have hentries : ∀ e ∈ entries, e.2.Plain d :=
        membersSteps_keeps (takeMember_keeps (ih d (Nat.lt_succ_self d))) (by simp) hread
      exact .object fun e he => hentries e (List.mem_reverse.1 he)

/-! ## Whole texts -/

theorem whole_eq_ok_iff {cs : List Char} {v : Json} : whole cs = .ok v ↔
    ∃ rest, value true maxDepth cs = .ok (v, rest) ∧
      endOfText rest = .ok () := by
  unfold whole
  constructor
  · intro h
    obtain ⟨⟨w, rest⟩, hread, h⟩ := ok_of_bind h
    obtain ⟨⟨⟩, hend, h⟩ := ok_of_bind h
    obtain rfl := Except.ok.inj h
    exact ⟨rest, hread, hend⟩
  · rintro ⟨rest, hread, hend⟩
    exact bind_eq_ok_iff.2 ⟨_, hread, bind_eq_ok_iff.2 ⟨_, hend, rfl⟩⟩

end Reader

/-- **A plain value has a text**, supposed that the finite numbers in it are read
back. -/
theorem Plain.read_pretty {v : Json} (h : v.Plain (Reader.maxDepth - 1))
    (hnumbers : ∀ n ∈ v.numbers, n.isFinite = true → n.ReadsBack) : read v.pretty = .ok v := by
  refine Reader.whole_eq_ok_iff.2 ⟨[], ?_, rfl⟩
  have hread := h.reread hnumbers 0 Reader.maxDepth [] (by decide) (by simp [Ends])
  rw [List.append_nil] at hread
  exact hread

end Json

end ParticleTimeline
