import ParticleTimeline.Proofs.Json.Strings
import ParticleTimeline.Proofs.Json.Values
/-!
# Values that are read back

Whatever is printed over several lines is read again: `Reread k v w` says
that what is printed for `v`, at any indentation and whatever follows, is
read as `w` wherever more than `k` levels of nesting are left. Words, strings
and whole numbers are read as what they were; of a float it depends on the
number (`JsonNumber.reread?`); arrays and objects are read item by item
(`Reread.array`, `Reread.object`), and the members of an object can be handed
to any visitor (`Reader.members_printed`).
-/

namespace ParticleTimeline

/-- The number that is read where a number is printed, if it is one. -/
def JsonNumber.reread? (n : JsonNumber) : Option JsonNumber :=
  match Json.Reader.value true Json.Reader.maxDepth (Json.numberText n).toList with
  | .ok (.number m, []) => some m
  | _ => none

namespace Json

open Reader

/-! ## Blanks -/

/-- A line break and its blanks are skipped. -/
theorem skipBlanks_newline (depth : Nat) (cs : List Char) :
    skipBlanks ((newline depth).toList ++ cs) = skipBlanks cs := by
  have hblanks : ∀ c ∈ (newline depth).toList, isBlank c = true := by
    intro c hc
    rw [newline, String.toList_append, String.toList_ofList (l := List.replicate _ _)] at hc
    rcases List.mem_append.1 hc with hc | hc
    · obtain rfl : c = '\n' := by simpa using hc
      rfl
    · obtain rfl := List.eq_of_mem_replicate hc
      rfl
  exact List.dropWhile_append_of_pos hblanks

theorem ends_newline (depth : Nat) (cs : List Char) : Ends ((newline depth).toList ++ cs) := by
  rw [newline, String.toList_append]
  exact ends_cons.2 (by decide)

/-! ## What is read for a value -/

/-- What is printed for `v` is read as `w` where more than `k` levels are
left. -/
def Reread (k : Nat) (v w : Json) : Prop :=
  ∀ (indent depth : Nat) (rest : List Char), k < depth → Ends rest →
    value true depth ((prettyAt indent v).toList ++ rest) = .ok (w, rest)

namespace Reread

variable {k : Nat} {v w : Json}

theorem mono {l : Nat} (h : Reread k v w) (hkl : k ≤ l) : Reread l v w :=
  fun indent depth rest hdepth => h indent depth rest (Nat.lt_of_le_of_lt hkl hdepth)

/-- A statement about all depths above a level is one about successors. -/
theorem of_succ (h : ∀ indent depth rest, k ≤ depth → Ends rest →
    value true (depth + 1) ((prettyAt indent v).toList ++ rest) = .ok (w, rest)) :
    Reread k v w := by
  intro indent depth rest hdepth hends
  obtain ⟨d, rfl⟩ : ∃ d, depth = d + 1 := ⟨depth - 1, by omega⟩
  exact h indent d rest (by omega) hends

theorem null : Reread 0 .null .null := by
  refine of_succ fun indent depth rest _ _ => ?_
  simp [prettyAt, value, skipBlanks, isBlank, Reader.word]

theorem bool (b : Bool) : Reread 0 (.bool b) (.bool b) := by
  refine of_succ fun indent depth rest _ _ => ?_
  cases b <;> simp [prettyAt, value, skipBlanks, isBlank, Reader.word]

theorem text (s : String) : Reread 0 (.text s) (.text s) := by
  refine of_succ fun indent depth rest _ _ => ?_
  have hread := string_quote s rest
  change value true (depth + 1) ((quote s).toList ++ rest) = _
  rw [toList_quote, List.append_assoc, List.cons_append, List.singleton_append]
  simp only [value, skipBlanks_cons (c := '"') rfl, Char.reduceEq, if_false, if_true, hread, bind,
    Except.bind, pure, Except.pure]
  rfl

/-- **A float is read as what its text by itself is read as.** -/
theorem number {n m : JsonNumber} (h : n.reread? = some m) : Reread 0 (.number n) (.number m) := by
  refine of_succ fun indent depth rest _ hends => ?_
  have halone : value true Reader.maxDepth (numberText n).toList = .ok (.number m, []) := by
    unfold JsonNumber.reread? at h
    split at h
    · rename_i hread
      rw [hread, Option.some.inj h]
    · cases h
  exact value_number_append halone hends

/-- What is written as null is read as null. -/
theorem absent {n : JsonNumber} (h : numberText n = "null") : Reread 0 (.number n) .null := by
  refine of_succ fun indent depth rest _ _ => ?_
  simp [prettyAt, h, value, skipBlanks, isBlank, Reader.word]

theorem natural (n : UInt64) : Reread 0 (.number (.natural n)) (.number (.natural n)) := by
  refine of_succ fun indent depth rest _ hends => ?_
  have hread := Reader.number_natural n hends
  change value true (depth + 1) ((toString n.toNat).toList ++ rest) = _
  cases htext : (toString n.toNat).toList with
  | nil => simp [Nat.toString_eq_repr, Nat.toList_repr] at htext
  | cons c cs =>
    have hdigit : c.isDigit = true := by
      refine Nat.isDigit_of_mem_toDigits (b := 10) (n := n.toNat) (by decide) (by decide) ?_
      rw [← Nat.toList_repr, ← Nat.toString_eq_repr, htext]
      exact List.mem_cons_self
    rw [htext, List.cons_append] at hread
    rw [List.cons_append, value_digit _ hdigit, hread]
    rfl

theorem negative {n : Int64} (hn : n < 0) :
    Reread 0 (.number (.negative n)) (.number (.negative n)) := by
  refine of_succ fun indent depth rest _ hends => ?_
  obtain ⟨cs, htext, hread⟩ := Reader.number_negative hn hends
  change value true (depth + 1) ((toString n.toInt).toList ++ rest) = _
  rw [htext, List.cons_append, value_minus, hread]
  rfl

end Reread

/-! ## Arrays -/

/-- The items behind the first one, as they are printed. -/
def following (indent : Nat) : List Json → List Char
  | [] => []
  | v :: vs =>
    ',' :: (newline indent).toList ++ ((prettyAt indent v).toList ++ following indent vs)

theorem toList_prettyItems (indent : Nat) (v : Json) (vs : List Json) :
    (prettyItems indent (v :: vs)).toList
      = (newline indent).toList ++ ((prettyAt indent v).toList ++ following indent vs) := by
  induction vs generalizing v with
  | nil => simp [prettyItems, following]
  | cons w vs ih => simp [prettyItems, following, ih]

theorem length_le_following (indent : Nat) (vs : List Json) :
    vs.length ≤ (following indent vs).length := by
  induction vs with
  | nil => exact Nat.le_refl _
  | cons v vs ih =>
    simp only [following, List.length_cons, List.length_append]
    omega

theorem ends_following (indent i : Nat) (vs : List Json) (rest : List Char) :
    Ends (following indent vs ++ ((newline i).toList ++ rest)) := by
  cases vs with
  | nil => exact ends_newline i rest
  | cons v vs => exact ends_cons.2 (by decide)

section Elements

variable {σ : Type} {visit : σ → Reader σ} {n : Nat} {s : σ} {c : Char} {cs cs' : List Char}

theorem elementsSteps_end (first : Bool) (h : skipBlanks cs = ']' :: cs') :
    elementsSteps visit (n + 1) first s cs = .ok (s, cs') := by
  simp only [elementsSteps, h]

theorem elementsSteps_first (h : skipBlanks cs = c :: cs') (hc : c ≠ ']') :
    elementsSteps visit (n + 1) true s cs
      = visit s (c :: cs') >>= fun read => elementsSteps visit n false read.1 read.2 := by
  simp only [elementsSteps, h, if_true]

theorem elementsSteps_comma (h : skipBlanks cs = c :: cs') (hc : c ≠ ']') :
    elementsSteps visit (n + 1) false s (',' :: cs)
      = visit s (c :: cs') >>= fun read => elementsSteps visit n false read.1 read.2 := by
  have hcomma : ',' ≠ ']' := by decide
  simp only [elementsSteps, skipBlanks_cons (c := ',') rfl, h, Bool.false_eq_true, if_false,
    if_true]
  split
  · rename_i heq
    cases heq
  · rename_i heq
    exact absurd (List.cons.inj heq).1 hc
  · rfl

end Elements

variable {k : Nat} {v w : Json} {vs ws : List Json}

theorem Reread.taken (h : Reread k v w) {depth : Nat} (hk : k < depth) (indent : Nat)
    (items : List Json) {rest : List Char} (hends : Ends rest) :
    ∃ c cs, skipBlanks ((prettyAt indent v).toList ++ rest) = c :: cs ∧ c ≠ ']' ∧
      takeItem depth items (c :: cs) = .ok (w :: items, rest) := by
  have hread := h indent depth rest hk hends
  obtain ⟨c, cs, hskip, hc⟩ := value_head hread
  obtain ⟨d, rfl⟩ : ∃ d, depth = d + 1 := ⟨depth - 1, by omega⟩
  refine ⟨c, cs, hskip, hc, ?_⟩
  rw [← value_skipBlanks, hskip] at hread
  simp only [takeItem, hread, bind, Except.bind, pure, Except.pure]

/-- **The items behind the first one are read one by one.** -/
theorem elementsSteps_following (h : List.Forall₂ (Reread k) vs ws) {depth : Nat} (hk : k < depth)
    (indent i : Nat) (rest : List Char) {fuel : Nat} (hfuel : vs.length < fuel)
    (items : List Json) :
    elementsSteps (takeItem depth) fuel false items
        (following indent vs ++ ((newline i).toList ++ ']' :: rest))
      = .ok (ws.reverse ++ items, rest) := by
  obtain ⟨n, rfl⟩ : ∃ n, fuel = n + 1 := ⟨fuel - 1, by omega⟩
  induction h generalizing n items with
  | nil =>
    refine elementsSteps_end false ?_
    rw [following, List.nil_append, skipBlanks_newline, skipBlanks_cons rfl]
  | @cons v w vs ws hhead htail ih =>
    simp only [List.length_cons] at hfuel
    obtain ⟨m, rfl⟩ : ∃ m, n = m + 1 := ⟨n - 1, by omega⟩
    obtain ⟨c, cs, hskip, hc, htake⟩ :=
      hhead.taken hk indent items (ends_following indent i vs (']' :: rest))
    have hbehind : skipBlanks ((newline indent).toList ++ ((prettyAt indent v).toList
        ++ following indent vs) ++ ((newline i).toList ++ ']' :: rest)) = c :: cs := by
      rw [List.append_assoc, List.append_assoc, skipBlanks_newline, hskip]
    rw [following, List.cons_append, List.cons_append, elementsSteps_comma hbehind hc, htake]
    simp only [bind, Except.bind]
    rw [ih (w :: items) m (by omega)]
    simp

/-- **An array is read item by item.** -/
theorem Reread.array (h : List.Forall₂ (Reread k) vs ws) :
    Reread (k + 1) (.array vs) (.array ws) := by
  refine of_succ fun indent depth rest hdepth _ => ?_
  obtain ⟨d, rfl⟩ : ∃ d, depth = d + 1 := ⟨depth - 1, by omega⟩
  cases h with
  | nil =>
    have hend : elements (takeItem (d + 1)) [] (']' :: rest) = .ok ([], rest) :=
      elementsSteps_end true (skipBlanks_cons rfl _)
    have hprinted : (prettyAt indent (.array [])).toList ++ rest = '[' :: ']' :: rest := by
      simp [prettyAt]
    rw [hprinted, value_array, hend]
    rfl
  | @cons v w vs ws hhead htail =>
    have hprinted : (prettyAt indent (.array (v :: vs))).toList ++ rest
        = '[' :: ((newline (indent + 1)).toList ++ ((prettyAt (indent + 1) v).toList
          ++ (following (indent + 1) vs ++ ((newline indent).toList ++ ']' :: rest)))) := by
      simp [prettyAt, toList_prettyItems]
    have hlevel : k < d + 1 := hdepth
    obtain ⟨c, cs, hskip, hc, htake⟩ :=
      hhead.taken hlevel (indent + 1) [] (ends_following (indent + 1) indent vs (']' :: rest))
    rw [hprinted, value_array, elements,
      elementsSteps_first ((skipBlanks_newline _ _).trans hskip) hc, htake]
    -- The fuel is the length of the text, and every item takes some of it.
    have henough := length_le_following (indent + 1) vs
    simp only [bind, Except.bind]
    rw [elementsSteps_following htail hlevel _ _ _
      (by simp only [List.length_append, List.length_cons]; omega)]
    simp [Except.map]

/-! ## Objects -/

/-- A member as it is printed behind its opening quote. -/
def printedMember (indent : Nat) (e : String × Json) (rest : List Char) : List Char :=
  escaped e.1.toList ++ '"' :: ':' :: ' ' :: ((prettyAt indent e.2).toList ++ rest)

/-- The members behind the first one, as they are printed. -/
def followingMembers (indent : Nat) : List (String × Json) → List Char → List Char
  | [], rest => rest
  | e :: es, rest =>
    ',' :: ((newline indent).toList
      ++ '"' :: printedMember indent e (followingMembers indent es rest))

theorem toList_prettyEntries (indent : Nat) (e : String × Json) (es : List (String × Json))
    (rest : List Char) :
    (prettyEntries indent (e :: es)).toList ++ rest
      = (newline indent).toList
        ++ '"' :: printedMember indent e (followingMembers indent es rest) := by
  induction es generalizing e with
  | nil => simp [prettyEntries, followingMembers, printedMember, toList_quote]
  | cons f es ih => simp [prettyEntries, followingMembers, printedMember, toList_quote, ih]

theorem length_le_followingMembers (indent : Nat) (es : List (String × Json)) (rest : List Char) :
    es.length + rest.length ≤ (followingMembers indent es rest).length := by
  induction es with
  | nil => simp [followingMembers]
  | cons e es ih =>
    simp only [followingMembers, printedMember, List.length_cons, List.length_append]
    omega

theorem ends_followingMembers (indent i : Nat) (es : List (String × Json)) (rest : List Char) :
    Ends (followingMembers indent es ((newline i).toList ++ rest)) := by
  cases es with
  | nil => exact ends_newline i rest
  | cons e es => exact ends_cons.2 (by decide)

section Members

variable {σ : Type} {visit : σ → String → Reader σ} {n : Nat} {s s' : σ} {c : Char}
variable {name : String} {cs more left : List Char}

theorem membersSteps_end (first : Bool) (h : skipBlanks cs = '\x7d' :: left) :
    membersSteps true visit (n + 1) first s cs = .ok (s, left) := by
  simp only [membersSteps, h]

theorem membersSteps_first
    (h : skipBlanks cs = '"' :: (escaped name.toList ++ '"' :: ':' :: more))
    (hvisit : visit s name more = .ok (s', left)) :
    membersSteps true visit (n + 1) true s cs = membersSteps true visit n false s' left := by
  have hquote : '"' ≠ '\x7d' := by decide
  simp only [membersSteps, h, if_true, string_quote, skipBlanks_cons (c := ':') rfl, bind,
    Except.bind, hvisit]

theorem membersSteps_comma
    (h : skipBlanks cs = '"' :: (escaped name.toList ++ '"' :: ':' :: more))
    (hvisit : visit s name more = .ok (s', left)) :
    membersSteps true visit (n + 1) false s (',' :: cs)
      = membersSteps true visit n false s' left := by
  have hcomma : ',' ≠ '\x7d' := by decide
  simp only [membersSteps, skipBlanks_cons (c := ',') rfl, h, if_true, string_quote,
    skipBlanks_cons (c := ':') rfl, bind, Except.bind, hvisit, Bool.false_eq_true, if_false]

/-- A visitor goes through the members of an object as they are printed. -/
inductive Visits (visit : σ → String → Reader σ) (indent : Nat) :
    σ → List (String × Json) → σ → Prop
  | nil (s : σ) : Visits visit indent s [] s
  | cons {s s₁ s' : σ} {name : String} {v : Json} {es : List (String × Json)}
      (h : ∀ rest, Ends rest →
        visit s name (' ' :: ((prettyAt indent v).toList ++ rest)) = .ok (s₁, rest))
      (hrest : Visits visit indent s₁ es s') : Visits visit indent s ((name, v) :: es) s'

/-- **The members behind the first one are visited one by one.** -/
theorem membersSteps_following {es : List (String × Json)} {indent : Nat}
    (h : Visits visit indent s es s') (i : Nat) (rest : List Char) {fuel : Nat}
    (hfuel : es.length < fuel) :
    membersSteps true visit fuel false s
        (followingMembers indent es ((newline i).toList ++ '\x7d' :: rest)) = .ok (s', rest) := by
  induction h generalizing fuel with
  | nil s =>
    simp only [List.length_nil] at hfuel
    obtain ⟨n, rfl⟩ : ∃ n, fuel = n + 1 := ⟨fuel - 1, by omega⟩
    refine membersSteps_end false ?_
    rw [followingMembers, skipBlanks_newline, skipBlanks_cons rfl]
  | @cons s s₁ s' name v es hvisit hrest ih =>
    simp only [List.length_cons] at hfuel
    obtain ⟨n, rfl⟩ : ∃ n, fuel = n + 1 := ⟨fuel - 1, by omega⟩
    have hskip := skipBlanks_newline indent ('"' :: printedMember indent (name, v)
      (followingMembers indent es ((newline i).toList ++ '\x7d' :: rest)))
    rw [skipBlanks_cons (c := '"') rfl] at hskip
    rw [followingMembers,
      membersSteps_comma hskip (hvisit _ (ends_followingMembers indent i es ('\x7d' :: rest)))]
    exact ih (by omega)

/-- **A printed object is visited member by member**, behind its opening
brace. -/
theorem members_printed {es : List (String × Json)} {indent : Nat}
    (h : Visits visit (indent + 1) s es s') :
    ∃ body, (prettyAt indent (.object es)).toList = '\x7b' :: body ∧
      ∀ rest, members true visit s (body ++ rest) = .ok (s', rest) := by
  cases h with
  | nil s =>
    refine ⟨['\x7d'], by simp [prettyAt], fun rest => ?_⟩
    exact membersSteps_end true (skipBlanks_cons rfl rest)
  | @cons s s₁ s' name v es hvisit hrest =>
    refine ⟨(prettyEntries (indent + 1) ((name, v) :: es)).toList
      ++ ((newline indent).toList ++ ['\x7d']), by simp [prettyAt], fun rest => ?_⟩
    have hbody := toList_prettyEntries (indent + 1) (name, v) es
      ((newline indent).toList ++ '\x7d' :: rest)
    have hskip := skipBlanks_newline (indent + 1) ('"' :: printedMember (indent + 1) (name, v)
      (followingMembers (indent + 1) es ((newline indent).toList ++ '\x7d' :: rest)))
    rw [skipBlanks_cons (c := '"') rfl] at hskip
    have henough := length_le_followingMembers (indent + 1) es
      ((newline indent).toList ++ '\x7d' :: rest)
    simp only [List.length_append, List.length_cons] at henough
    rw [List.append_assoc, List.append_assoc, List.singleton_append, hbody, members,
      membersSteps_first hskip
        (hvisit _ (ends_followingMembers (indent + 1) indent es ('\x7d' :: rest)))]
    refine membersSteps_following hrest indent rest ?_
    simp only [printedMember, List.length_append, List.length_cons]
    omega

end Members

/-- The value of a member is read behind the blank that follows its colon. -/
theorem Reread.behind_blank (h : Reread k v w) {depth : Nat} (hk : k < depth) (indent : Nat)
    {rest : List Char} (hends : Ends rest) :
    value true depth (' ' :: ((prettyAt indent v).toList ++ rest)) = .ok (w, rest) := by
  obtain ⟨d, rfl⟩ : ∃ d, depth = d + 1 := ⟨depth - 1, by omega⟩
  have hread := h indent (d + 1) rest hk hends
  rw [← value_skipBlanks] at hread ⊢
  exact hread

/-- Members with their names kept and their values read back. -/
def RereadMembers (k : Nat) : List (String × Json) → List (String × Json) → Prop :=
  List.Forall₂ fun e f => e.1 = f.1 ∧ Reread k e.2 f.2

theorem RereadMembers.visits {es fs : List (String × Json)} (h : RereadMembers k es fs)
    {depth : Nat} (hk : k < depth) (indent : Nat) (entries : List (String × Json)) :
    Visits (takeMember depth) indent entries es (fs.reverse ++ entries) := by
  induction h generalizing entries with
  | nil => exact .nil entries
  | @cons e f es fs hhead htail ih =>
    obtain ⟨name, v⟩ := e
    obtain ⟨rfl, hread⟩ := hhead
    rw [List.reverse_cons, List.append_assoc, List.singleton_append]
    refine .cons (fun rest hends => ?_) (ih (f :: entries))
    simp only [takeMember, hread.behind_blank hk indent hends, bind, Except.bind, pure, Except.pure]

/-- **An object is read member by member.** -/
theorem Reread.object {es fs : List (String × Json)} (h : RereadMembers k es fs) :
    Reread (k + 1) (.object es) (.object fs) := by
  refine of_succ fun indent depth rest hdepth _ => ?_
  obtain ⟨d, rfl⟩ : ∃ d, depth = d + 1 := ⟨depth - 1, by omega⟩
  obtain ⟨body, hprinted, hread⟩ :=
    members_printed (h.visits (Nat.lt_of_succ_le hdepth) (indent + 1) [])
  rw [hprinted, List.cons_append, value_object, hread]
  simp [Except.map]

end Json

end ParticleTimeline
