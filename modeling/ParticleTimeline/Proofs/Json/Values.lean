import ParticleTimeline.Proofs.Json.Numbers
/-!
# One level of a value

The first character that is not blank says what a value is. What is read there
is a word, a number, a text, or an array or an object whose parts are one level
less deep (`Json.Reader.value_cases`); so a number can be told from its first
character (`Json.Reader.number_of_value`), and is read whatever follows it
(`Json.Reader.value_number_append`).
-/

namespace ParticleTimeline

namespace Json

namespace Reader

variable {cs left rest : List Char} {v : Json} {depth : Nat}

/-! ## Blanks -/

theorem skipBlanks_cons {c : Char} (h : isBlank c = false) (cs : List Char) :
    skipBlanks (c :: cs) = c :: cs := by
  simp [skipBlanks, h]

theorem skipBlanks_skipBlanks (cs : List Char) : skipBlanks (skipBlanks cs) = skipBlanks cs := by
  induction cs with
  | nil => rfl
  | cons c cs ih =>
    cases hblank : isBlank c with
    | true => simpa [skipBlanks, hblank] using ih
    | false => rw [skipBlanks_cons hblank, skipBlanks_cons hblank]

/-- Blanks before a value do not matter. -/
theorem value_skipBlanks (depth : Nat) (cs : List Char) :
    value true (depth + 1) (skipBlanks cs) = value true (depth + 1) cs := by
  simp only [value, skipBlanks_skipBlanks]

/-! ## Parts -/

/-- How `value` takes the items of an array. -/
def takeItem (depth : Nat) (items : List Json) : Reader (List Json) := fun cs => do
  let (v, cs) ← value true depth cs
  return (v :: items, cs)

/-- How `value` takes the members of an object. -/
def takeMember (depth : Nat) (entries : List (String × Json)) (name : String) :
    Reader (List (String × Json)) := fun cs => do
  let (v, cs) ← value true depth cs
  return ((name, v) :: entries, cs)

/-- Where two steps succeed, both do. -/
theorem ok_of_bind {ε α β : Type} {x : Except ε α} {f : α → Except ε β} {b : β}
    (h : x >>= f = .ok b) : ∃ a, x = .ok a ∧ f a = .ok b := by
  cases x with
  | error e => cases h
  | ok a => exact ⟨a, rfl, h⟩

/-- What is read and then wrapped. -/
theorem read_of_wrapped {α : Type} {read : Except Failure (α × List Char)} {w : α → Json}
    (h : (read >>= fun a => pure (w a.1, a.2)) = .ok (v, left)) :
    ∃ a, read = .ok (a, left) ∧ v = w a := by
  obtain ⟨a, hread, h⟩ := ok_of_bind h
  obtain ⟨rfl, rfl⟩ := Prod.mk.inj (Except.ok.inj h)
  exact ⟨a.1, hread, rfl⟩

/-- **What a value can be**, by its first character. -/
theorem value_cases (h : value true (depth + 1) cs = .ok (v, left)) :
    v = .null ∨ (∃ b, v = .bool b) ∨ (∃ s, v = .text s) ∨
      (∃ n cs', v = .number n ∧ skipBlanks cs = '-' :: cs' ∧ number true true cs' = .ok (n, left)) ∨
      (∃ n c cs', v = .number n ∧ skipBlanks cs = c :: cs' ∧ c.isDigit = true ∧
        number true false (c :: cs') = .ok (n, left)) ∨
      (∃ d items cs', depth = d + 1 ∧ v = .array items.reverse ∧ skipBlanks cs = '[' :: cs' ∧
        elements (takeItem depth) [] cs' = .ok (items, left)) ∨
      ∃ d entries cs', depth = d + 1 ∧ v = .object entries.reverse ∧
        skipBlanks cs = '\x7b' :: cs' ∧
        members true (takeMember depth) [] cs' = .ok (entries, left) := by
  unfold value at h
  cases hskip : skipBlanks cs with
  | nil =>
    rw [hskip] at h
    cases h
  | cons c cs' =>
    rw [hskip] at h
    dsimp only at h
    -- One case for each character that a value may begin with, in the order of the reader.
    by_cases hn : c = 'n'
    · rw [if_pos hn] at h
      obtain ⟨-, -, rfl⟩ := read_of_wrapped (w := fun _ => .null) h
      exact .inl rfl
    rw [if_neg hn] at h
    by_cases ht : c = 't'
    · rw [if_pos ht] at h
      obtain ⟨-, -, rfl⟩ := read_of_wrapped (w := fun _ => .bool true) h
      exact .inr (.inl ⟨true, rfl⟩)
    rw [if_neg ht] at h
    by_cases hf : c = 'f'
    · rw [if_pos hf] at h
      obtain ⟨-, -, rfl⟩ := read_of_wrapped (w := fun _ => .bool false) h
      exact .inr (.inl ⟨false, rfl⟩)
    rw [if_neg hf] at h
    by_cases hminus : c = '-'
    · rw [if_pos hminus] at h
      obtain ⟨n, hnumber, rfl⟩ := read_of_wrapped (w := .number) h
      exact .inr (.inr (.inr (.inl ⟨n, cs', rfl, by rw [hminus], hnumber⟩)))
    rw [if_neg hminus] at h
    by_cases hdigit : c.isDigit = true
    · rw [if_pos hdigit] at h
      obtain ⟨n, hnumber, rfl⟩ := read_of_wrapped (w := .number) h
      exact .inr (.inr (.inr (.inr (.inl ⟨n, c, cs', rfl, rfl, hdigit, hnumber⟩))))
    rw [if_neg hdigit] at h
    by_cases hquote : c = '"'
    · rw [if_pos hquote] at h
      obtain ⟨s, -, rfl⟩ := read_of_wrapped (w := .text) h
      exact .inr (.inr (.inl ⟨s, rfl⟩))
    rw [if_neg hquote] at h
    by_cases hbracket : c = '['
    · rw [if_pos hbracket] at h
      cases depth with
      | zero => cases h
      | succ d =>
        rw [if_neg (Nat.succ_ne_zero d)] at h
        obtain ⟨items, hitems, rfl⟩ :=
          read_of_wrapped (w := fun items : List Json => .array items.reverse) h
        exact .inr (.inr (.inr (.inr (.inr (.inl
          ⟨d, items, cs', rfl, rfl, by rw [hbracket], hitems⟩)))))
    rw [if_neg hbracket] at h
    by_cases hbrace : c = '\x7b'
    · rw [if_pos hbrace] at h
      cases depth with
      | zero => cases h
      | succ d =>
        rw [if_neg (Nat.succ_ne_zero d)] at h
        obtain ⟨entries, hentries, rfl⟩ :=
          read_of_wrapped (w := fun entries : List (String × Json) => .object entries.reverse) h
        exact .inr (.inr (.inr (.inr (.inr (.inr
          ⟨d, entries, cs', rfl, rfl, by rw [hbrace], hentries⟩)))))
    rw [if_neg hbrace] at h
    cases h

/-! ## One character at a time -/

/-- A value does not begin with a closing bracket. -/
theorem value_head {depth : Nat} {cs left : List Char} {v : Json}
    (h : value true depth cs = .ok (v, left)) : ∃ c cs', skipBlanks cs = c :: cs' ∧ c ≠ ']' := by
  cases depth with
  | zero => simp [value, failNext] at h
  | succ depth =>
    cases hskip : skipBlanks cs with
    | nil => simp [value, hskip, failHere] at h
    | cons c cs' =>
      refine ⟨c, cs', rfl, fun hc => ?_⟩
      subst hc
      simp [value, hskip, failNext] at h

/-- Behind a minus sign stands a number. -/
theorem value_minus (depth : Nat) (cs : List Char) :
    value true (depth + 1) ('-' :: cs)
      = (number true true cs).map fun read => (.number read.1, read.2) := by
  simp only [value, skipBlanks_cons (c := '-') rfl, Char.reduceEq, if_false, if_true]
  cases number true true cs <;> rfl

/-- At a digit stands a number. -/
theorem value_digit (depth : Nat) {c : Char} (h : c.isDigit = true) (cs : List Char) :
    value true (depth + 1) (c :: cs)
      = (number true false (c :: cs)).map fun read => (.number read.1, read.2) := by
  have hne : ∀ d : Char, d.isDigit = false → c ≠ d := by
    rintro d hd rfl
    rw [h] at hd
    cases hd
  have hblank : isBlank c = false := by
    simp [isBlank, hne ' ' rfl, hne '\n' rfl, hne '\t' rfl, hne '\r' rfl]
  simp only [value, skipBlanks_cons hblank, if_neg (hne 'n' rfl), if_neg (hne 't' rfl),
    if_neg (hne 'f' rfl), if_neg (hne '-' rfl), h, if_true]
  cases number true false (c :: cs) <;> rfl

theorem value_array (depth : Nat) (cs : List Char) :
    value true (depth + 2) ('[' :: cs)
      = (elements (takeItem (depth + 1)) [] cs).map fun read =>
        (.array read.1.reverse, read.2) := by
  have hdigit : ¬ ('['.isDigit = true) := by decide
  rw [value, skipBlanks_cons (c := '[') rfl]
  simp only [Char.reduceEq, if_false, if_true, if_neg hdigit, if_neg (Nat.succ_ne_zero depth)]
  change (elements (takeItem (depth + 1)) [] cs >>= _) = _
  cases elements (takeItem (depth + 1)) [] cs <;> rfl

theorem value_object (depth : Nat) (cs : List Char) :
    value true (depth + 2) ('\x7b' :: cs)
      = (members true (takeMember (depth + 1)) [] cs).map fun read =>
        (.object read.1.reverse, read.2) := by
  have hdigit : ¬ ('\x7b'.isDigit = true) := by decide
  rw [value, skipBlanks_cons (c := '\x7b') rfl]
  simp only [Char.reduceEq, if_false, if_true, if_neg hdigit, if_neg (Nat.succ_ne_zero depth)]
  change (members true (takeMember (depth + 1)) [] cs >>= _) = _
  cases members true (takeMember (depth + 1)) [] cs <;> rfl

theorem value_array_eq_ok_iff : value true (depth + 2) ('[' :: cs) = .ok (v, left) ↔
    ∃ items, v = .array items ∧
      elements (takeItem (depth + 1)) [] cs = .ok (items.reverse, left) := by
  rw [value_array]
  cases elements (takeItem (depth + 1)) [] cs with
  | error e => simp [Except.map]
  | ok read =>
    obtain ⟨items, rest⟩ := read
    simp only [Except.map, Except.ok.injEq, Prod.mk.injEq]
    constructor
    · rintro ⟨rfl, rfl⟩
      exact ⟨_, rfl, (List.reverse_reverse items).symm, rfl⟩
    · rintro ⟨_, rfl, rfl, rfl⟩
      exact ⟨congrArg Json.array (List.reverse_reverse _), rfl⟩

theorem value_object_eq_ok_iff : value true (depth + 2) ('\x7b' :: cs) = .ok (v, left) ↔
    ∃ entries, v = .object entries ∧
      members true (takeMember (depth + 1)) [] cs = .ok (entries.reverse, left) := by
  rw [value_object]
  cases members true (takeMember (depth + 1)) [] cs with
  | error e => simp [Except.map]
  | ok read =>
    obtain ⟨entries, rest⟩ := read
    simp only [Except.map, Except.ok.injEq, Prod.mk.injEq]
    constructor
    · rintro ⟨rfl, rfl⟩
      exact ⟨_, rfl, (List.reverse_reverse entries).symm, rfl⟩
    · rintro ⟨_, rfl, rfl, rfl⟩
      exact ⟨congrArg Json.object (List.reverse_reverse _), rfl⟩

/-! ## Numbers -/

/-- **What is read as a number** is a number behind its blanks. -/
theorem number_of_value {n : JsonNumber} (h : value true (depth + 1) cs = .ok (.number n, left)) :
    (∃ cs', skipBlanks cs = '-' :: cs' ∧ number true true cs' = .ok (n, left)) ∨
      ∃ c cs', skipBlanks cs = c :: cs' ∧ c.isDigit = true ∧
        number true false (c :: cs') = .ok (n, left) := by
  rcases value_cases h with hv | ⟨b, hv⟩ | ⟨s, hv⟩ | ⟨m, cs', hv, hskip, hread⟩ |
    ⟨m, c, cs', hv, hskip, hdigit, hread⟩ | ⟨d, items, cs', -, hv, -⟩ | ⟨d, entries, cs', -, hv, -⟩
  · cases hv
  · cases hv
  · cases hv
  · obtain rfl := Json.number.inj hv
    exact .inl ⟨cs', hskip, hread⟩
  · obtain rfl := Json.number.inj hv
    exact .inr ⟨c, cs', hskip, hdigit, hread⟩
  · cases hv
  · cases hv

/-- **A number is read whatever follows it**, where it can be read at all. -/
theorem value_number_append {depth' : Nat} {n : JsonNumber}
    (h : value true (depth + 1) cs = .ok (.number n, [])) (hends : Ends rest) :
    value true (depth' + 1) (cs ++ rest) = .ok (.number n, rest) := by
  have hskip : ∀ c cs', skipBlanks cs = c :: cs' →
      skipBlanks (cs ++ rest) = c :: (cs' ++ rest) := by
    intro c cs' hskip
    simp only [skipBlanks] at hskip ⊢
    rw [List.dropWhile_append, hskip]
    rfl
  rw [← value_skipBlanks]
  rcases number_of_value h with ⟨cs', hcs, hnumber⟩ | ⟨c, cs', hcs, hdigit, hnumber⟩
  · have hread := number_append hends hnumber
    rw [hskip _ _ hcs, value_minus, hread]
    rfl
  · have hread := number_append hends hnumber
    rw [List.cons_append] at hread
    rw [hskip _ _ hcs, value_digit _ hdigit, hread]
    rfl

end Reader

end Json

end ParticleTimeline
