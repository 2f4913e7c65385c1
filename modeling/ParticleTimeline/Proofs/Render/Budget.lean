import Mathlib.Data.List.Nodup
import Mathlib.Data.List.Perm.Basic
import ParticleTimeline.Proofs.Render.Sizes
/-!
# The account of a device

A device keeps an account of the bytes of its framebuffers. After any requests,
granted or not, the account says of every framebuffer what it has, and keeps
within the budget if there is one (`DeviceRequest.run_accounted`). What a
request comes to is decided by the sum that it would lead to, and by whether
that can be computed. The bytes of one framebuffer alone can be beyond 64 bits,
and then nobody gets to compare them with the budget; without a budget all
framebuffers together can be, and then nobody gets to know how many bytes there
are (`DeviceRequest.boundless_uncounted`).
-/

namespace ParticleTimeline

/-! ## Bytes -/

/-- Four bytes for every pixel. -/
def Framebuffer.bytes (fb : Framebuffer) : Nat := 4 * (fb.width.toNat * fb.height.toNat)

/-- The bytes of some framebuffers. -/
def bytesOf : List Framebuffer → Nat
  | [] => 0
  | fb :: fbs => fb.bytes + bytesOf fbs

/-- What the account says of a framebuffer. -/
def Framebuffer.entry (fb : Framebuffer) : Nat × Nat := (fb.id, fb.bytes)

theorem bytesOf_perm {fbs fbs' : List Framebuffer} (h : fbs.Perm fbs') :
    bytesOf fbs = bytesOf fbs' := by
  induction h with
  | nil => rfl
  | cons fb _ ih => rw [bytesOf, bytesOf, ih]
  | swap fb fb' fbs => simp only [bytesOf, Nat.add_left_comm]
  | trans _ _ ih ih' => exact ih.trans ih'

theorem bytesOf_append (fbs fbs' : List Framebuffer) :
    bytesOf (fbs ++ fbs') = bytesOf fbs + bytesOf fbs' := by
  induction fbs with
  | nil => simp [bytesOf]
  | cons fb fbs ih =>
    simp only [List.cons_append, bytesOf, ih]
    omega

/-- A framebuffer put back where it stands changes nothing. -/
theorem set_framebuffer {fbs : List Framebuffer} {index : Nat} {fb : Framebuffer}
    (hfb : fbs[index]? = some fb) : fbs.set index fb = fbs := by
  obtain ⟨hindex, rfl⟩ := List.getElem?_eq_some_iff.1 hfb
  exact List.set_getElem_self hindex

/-- A framebuffer of another size keeps its id. -/
theorem ids_resized {fbs : List Framebuffer} {index : Nat} {fb : Framebuffer}
    (hfb : fbs[index]? = some fb) (width height : UInt32) :
    (fbs.set index { fb with width, height }).map Framebuffer.id
      = fbs.map Framebuffer.id := by
  rw [List.map_set]
  change (fbs.map Framebuffer.id).set index fb.id = _
  rw [← List.map_set, set_framebuffer hfb]

namespace Device

theorem total_perm {es fs : List (Nat × Nat)} (h : es.Perm fs) : total es = total fs := by
  unfold total
  exact (h.map Prod.snd).foldr_eq' (fun x _ y _ z => Nat.add_left_comm y x z) 0

theorem total_entries (fbs : List Framebuffer) :
    total (fbs.map Framebuffer.entry) = bytesOf fbs := by
  induction fbs with
  | nil => rfl
  | cons fb fbs ih =>
    rw [bytesOf, ← ih]
    rfl

theorem count_of_lt {n : Nat} (h : n < UInt64.size) : count n = .ok n := if_pos h

theorem count_of_le {n : Nat} (h : UInt64.size ≤ n) : count n = .error .uncountable :=
  if_neg (Nat.not_lt.2 h)

/-- The bytes of all framebuffers but one. -/
def others (d : Device) (id : Nat) : Nat := total (d.reserved.filter (·.1 ≠ id))

/-- The device with the bytes of a framebuffer on its account. -/
def book (d : Device) (id bytes : Nat) : Device :=
  { d with reserved := d.reserved.filter (·.1 ≠ id) ++ [(id, bytes)] }

/-- Some number that a reservation has to count is beyond 64 bits. Without a
budget it does not count the new framebuffer together with the others. -/
def Uncounted (d : Device) (others own : Nat) : Prop :=
  UInt64.size ≤ own ∨ UInt64.size ≤ others ∨ d.budget ≠ none ∧ UInt64.size ≤ others + own

/-- There is a budget, and it does not allow so many bytes. -/
def Exceeds (d : Device) (bytes : Nat) : Prop := ∃ b, d.budget = some b ∧ b.toNat < bytes

/-- What a reservation comes to. -/
inductive Reserved (d : Device) (id : Nat) (label : String) (width height : UInt32) :
    Except AllocationError Device → Prop
  | uncounted (h : d.Uncounted (d.others id) (bytes width height)) :
      Reserved d id label width height (.error .uncountable)
  | refused (h : ¬ d.Uncounted (d.others id) (bytes width height))
      (hexceeds : d.Exceeds (d.others id + bytes width height)) :
      Reserved d id label width height (.error (.refused label width height))
  | granted (h : ¬ d.Uncounted (d.others id) (bytes width height))
      (hwithin : ¬ d.Exceeds (d.others id + bytes width height)) :
      Reserved d id label width height (.ok (d.book id (bytes width height)))

theorem reserve_eq (d : Device) (id : Nat) (label : String) (width height : UInt32) :
    d.reserve id label width height = (do
      let own ← count (bytes width height)
      let others ← count (d.others id)
      if ← d.affords others own then return d.book id own
      else throw (.refused label width height)) :=
  rfl

theorem reserve_cases (d : Device) (id : Nat) (label : String) (width height : UInt32) :
    d.Reserved id label width height (d.reserve id label width height) := by
  rw [reserve_eq]
  rcases Nat.lt_or_ge (bytes width height) UInt64.size with hown | hown
  case inr =>
    rw [count_of_le hown]
    exact .uncounted (.inl hown)
  rcases Nat.lt_or_ge (d.others id) UInt64.size with hothers | hothers
  case inr =>
    rw [count_of_lt hown, count_of_le hothers]
    exact .uncounted (.inr (.inl hothers))
  rw [count_of_lt hown, count_of_lt hothers]
  cases hbudget : d.budget with
  | none =>
    have haffords : d.affords (d.others id) (bytes width height) = .ok true := by
      rw [affords, hbudget]
      rfl
    simp only [bind, Except.bind, haffords, if_true]
    refine .granted ?_ ?_
    · simp [Uncounted, hbudget, hown, hothers]
    · simp [Exceeds, hbudget]
  | some b =>
    rcases Nat.lt_or_ge (d.others id + bytes width height) UInt64.size with hsum | hsum
    case inr =>
      have haffords : d.affords (d.others id) (bytes width height) = .error .uncountable := by
        rw [affords, hbudget, count_of_le hsum]
        rfl
      simp only [bind, Except.bind, haffords]
      exact .uncounted (.inr (.inr ⟨by simp [hbudget], hsum⟩))
    have haffords : d.affords (d.others id) (bytes width height)
        = .ok (decide (d.others id + bytes width height ≤ b.toNat)) := by
      rw [affords, hbudget, count_of_lt hsum]
      rfl
    have hcounted : ¬ d.Uncounted (d.others id) (bytes width height) := by
      simp only [Uncounted]
      omega
    simp only [bind, Except.bind, haffords, decide_eq_true_eq]
    split
    case isTrue hwithin => exact .granted hcounted (by simp [Exceeds, hbudget, hwithin])
    case isFalse hexceeds => exact .refused hcounted ⟨b, hbudget, Nat.not_le.1 hexceeds⟩

end Device

/-! ## Requests -/

/-- A device, and the framebuffers that it has made, as they are now. -/
structure Holdings where
  device : Device
  framebuffers : List Framebuffer := []

/-- Something that a device is asked for. A framebuffer goes by the number of
those that were made before it. -/
inductive DeviceRequest where
  | create (label : String) (width height : UInt32)
  | resize (index : Nat) (width height : UInt32)
deriving DecidableEq

namespace DeviceRequest

/-- What a request leaves, and how it has failed, if it has. -/
def perform : DeviceRequest → Holdings → Holdings × Option AllocationError
  | create label width height, s =>
    match s.device.create label width height with
    | .ok (device, fb) => ({ device, framebuffers := s.framebuffers ++ [fb] }, none)
    | .error e => (s, some e)
  | resize index width height, s =>
    match s.framebuffers[index]? with
    | none => (s, none)
    | some fb =>
      match s.device.resize fb width height with
      | .ok (device, fb) => ({ device, framebuffers := s.framebuffers.set index fb }, none)
      | .error e => (s, some e)

/-- What some requests leave, one after the other. -/
def run (ops : List DeviceRequest) (s : Holdings) : Holdings :=
  ops.foldl (fun s op => (op.perform s).1) s

/-- The size that is asked for. -/
def size : DeviceRequest → UInt32 × UInt32
  | create _ width height | resize _ width height => asked width height

/-- The bytes of that size. -/
def own (op : DeviceRequest) : Nat := 4 * (op.size.1.toNat * op.size.2.toNat)

/-- The bytes of the framebuffers that it is not asked for. -/
def others : DeviceRequest → Holdings → Nat
  | create .., s => bytesOf s.framebuffers
  | resize index .., s => bytesOf (s.framebuffers.eraseIdx index)

/-- The framebuffers that there would be. -/
def granted : DeviceRequest → Holdings → List Framebuffer
  | create label width height, s =>
    s.framebuffers ++ [⟨s.device.nextId, label, max width 1, max height 1⟩]
  | resize index width height, s =>
    s.framebuffers.modify index fun fb => { fb with width := max width 1, height := max height 1 }

/-- The bytes that there would be. -/
def wanted (op : DeviceRequest) (s : Holdings) : Nat := bytesOf (op.granted s)

/-- There is nothing to do. -/
def Idle : DeviceRequest → Holdings → Prop
  | create .., _ => False
  | resize index width height, s =>
    ∀ fb, s.framebuffers[index]? = some fb → fb.size = asked width height

/-- The name in a refusal. -/
def label : DeviceRequest → Holdings → String
  | create label .., _ => label
  | resize index .., s => (s.framebuffers[index]?.map Framebuffer.label).getD ""

end DeviceRequest

namespace Holdings

/-- The account is in order: it says of every framebuffer what bytes it has,
the ids count up, and the budget is kept. -/
structure Accounted (s : Holdings) : Prop where
  entries : s.device.reserved.Perm (s.framebuffers.map Framebuffer.entry)
  ids : s.framebuffers.map Framebuffer.id = List.range s.device.nextId
  within : ¬ s.device.Exceeds (bytesOf s.framebuffers)

/-- A device that has made nothing yet. -/
def fresh (budget : Option UInt64) : Holdings where
  device := { budget }

variable {s : Holdings}

theorem accounted_fresh (budget : Option UInt64) : (fresh budget).Accounted where
  entries := .nil
  ids := rfl
  within := by
    rintro ⟨b, -, hb⟩
    exact Nat.not_lt_zero _ hb

/-- What is counted when somebody asks for the bytes of all framebuffers. -/
theorem Accounted.allocated (h : s.Accounted) :
    s.device.allocated = Device.count (bytesOf s.framebuffers) := by
  rw [Device.allocated, Device.total_perm h.entries, Device.total_entries]

theorem Accounted.id_lt (h : s.Accounted) {fb : Framebuffer} (hfb : fb ∈ s.framebuffers) :
    fb.id < s.device.nextId := by
  have hmem := List.mem_map_of_mem (f := Framebuffer.id) hfb
  rwa [h.ids, List.mem_range] at hmem

/-- A new framebuffer has no entry yet. -/
theorem Accounted.kept_create (h : s.Accounted) :
    (s.device.reserved.filter (·.1 ≠ s.device.nextId)).Perm
      (s.framebuffers.map Framebuffer.entry) := by
  refine (h.entries.filter _).trans (List.Perm.of_eq (List.filter_eq_self.2 fun e he => ?_))
  obtain ⟨fb, hfb, rfl⟩ := List.mem_map.1 he
  exact decide_eq_true (Nat.ne_of_lt (h.id_lt hfb))

/-- No other framebuffer has the id of one. -/
theorem Accounted.kept_resize (h : s.Accounted) {index : Nat} {fb : Framebuffer}
    (hfb : s.framebuffers[index]? = some fb) :
    (s.device.reserved.filter (·.1 ≠ fb.id)).Perm
      ((s.framebuffers.eraseIdx index).map Framebuffer.entry) := by
  obtain ⟨hindex, rfl⟩ := List.getElem?_eq_some_iff.1 hfb
  have hsplit := List.getElem_cons_eraseIdx_perm hindex
  have hnodup : (s.framebuffers.map Framebuffer.id).Nodup := h.ids ▸ List.nodup_range
  rw [← (hsplit.map Framebuffer.id).nodup_iff, List.map_cons, List.nodup_cons] at hnodup
  refine ((h.entries.trans (hsplit.map _).symm).filter _).trans (List.Perm.of_eq ?_)
  rw [List.map_cons, List.filter_cons_of_neg (by simp [Framebuffer.entry])]
  refine List.filter_eq_self.2 fun e he => ?_
  obtain ⟨fb, hfb, rfl⟩ := List.mem_map.1 he
  exact decide_eq_true fun hsame => hnodup.1 (hsame ▸ List.mem_map_of_mem hfb)

end Holdings

namespace DeviceRequest

open Holdings (Accounted)

variable {op : DeviceRequest} {s : Holdings} {index : Nat} {fb : Framebuffer}
variable {width height : UInt32}

/-- **What a request comes to**: nothing is done, or the device fails for one
reason or the other, or the account is that of the framebuffers asked for. -/
inductive Outcome (op : DeviceRequest) (s : Holdings) :
    Holdings × Option AllocationError → Prop
  | idle (h : op.Idle s) : Outcome op s (s, none)
  | uncounted (h : ¬ op.Idle s) (hcounted : s.device.Uncounted (op.others s) op.own) :
      Outcome op s (s, some .uncountable)
  | refused (h : ¬ op.Idle s) (hcounted : ¬ s.device.Uncounted (op.others s) op.own)
      (hexceeds : s.device.Exceeds (op.others s + op.own)) :
      Outcome op s (s, some (.refused (op.label s) op.size.1 op.size.2))
  | granted {device : Device} (h : ¬ op.Idle s)
      (hcounted : ¬ s.device.Uncounted (op.others s) op.own)
      (hwithin : ¬ s.device.Exceeds (op.others s + op.own))
      (hbudget : device.budget = s.device.budget)
      (hentries : device.reserved.Perm ((op.granted s).map Framebuffer.entry))
      (hids : (op.granted s).map Framebuffer.id = List.range device.nextId) :
      Outcome op s ({ device, framebuffers := op.granted s }, none)

theorem outcome_create (h : s.Accounted) (label : String) (width height : UInt32) :
    Outcome (create label width height) s ((create label width height).perform s) := by
  have hidle : ¬ (create label width height).Idle s := id
  have hothers : s.device.others s.device.nextId = bytesOf s.framebuffers := by
    rw [Device.others, Device.total_perm h.kept_create, Device.total_entries]
  have hcases := s.device.reserve_cases s.device.nextId label (max width 1) (max height 1)
  simp only [perform, Device.create, bind, Except.bind]
  generalize s.device.reserve s.device.nextId label (max width 1) (max height 1) = reservation
    at hcases ⊢
  cases hcases with
  | uncounted hcounted =>
    rw [hothers] at hcounted
    exact .uncounted hidle hcounted
  | refused hcounted hexceeds =>
    rw [hothers] at hcounted hexceeds
    exact .refused hidle hcounted hexceeds
  | granted hcounted hwithin =>
    rw [hothers] at hcounted hwithin
    refine .granted hidle hcounted hwithin rfl ?_ ?_
    · rw [granted, List.map_append]
      exact h.kept_create.append_right _
    · rw [granted, List.map_append, h.ids]
      exact List.range_succ.symm

/-- What there would be after a framebuffer had been given its new size. -/
theorem granted_resize (hfb : s.framebuffers[index]? = some fb) (width height : UInt32) :
    (resize index width height).granted s
      = s.framebuffers.set index { fb with width := max width 1, height := max height 1 } := by
  rw [granted, List.modify_eq_set_getElem?, hfb]
  rfl

/-- There is nothing to do for a framebuffer that has its new size already. -/
theorem idle_resize_iff (hfb : s.framebuffers[index]? = some fb) :
    (resize index width height).Idle s ↔
      { fb with width := max width 1, height := max height 1 } = fb := by
  constructor
  · intro hidle
    have hsize := hidle fb hfb
    rw [Framebuffer.size, asked, Prod.mk.injEq] at hsize
    rw [← hsize.1, ← hsize.2]
  · intro hsame other hother
    obtain rfl := Option.some.inj (hfb.symm.trans hother)
    rw [← hsame]
    rfl

theorem outcome_resize (h : s.Accounted) (index : Nat) (width height : UInt32) :
    Outcome (resize index width height) s ((resize index width height).perform s) := by
  simp only [perform]
  cases hfb : s.framebuffers[index]? with
  | none => exact .idle fun fb hsome => by simp [hfb] at hsome
  | some fb =>
    obtain ⟨hindex, -⟩ := List.getElem?_eq_some_iff.1 hfb
    have hothers : s.device.others fb.id = bytesOf (s.framebuffers.eraseIdx index) := by
      rw [Device.others, Device.total_perm (h.kept_resize hfb), Device.total_entries]
    have hlabel : (resize index width height).label s = fb.label := by simp [label, hfb]
    by_cases hsame : { fb with width := max width 1, height := max height 1 } = fb
    case pos =>
      simp only [Device.resize, if_pos hsame, set_framebuffer hfb]
      exact .idle ((idle_resize_iff hfb).2 hsame)
    case neg =>
      have hidle : ¬ (resize index width height).Idle s := mt (idle_resize_iff hfb).1 hsame
      have hcases := s.device.reserve_cases fb.id fb.label (max width 1) (max height 1)
      simp only [Device.resize, if_neg hsame, bind, Except.bind]
      generalize s.device.reserve fb.id fb.label (max width 1) (max height 1) = reservation
        at hcases ⊢
      cases hcases with
      | uncounted hcounted =>
        rw [hothers] at hcounted
        exact .uncounted hidle hcounted
      | refused hcounted hexceeds =>
        rw [hothers] at hcounted hexceeds
        rw [← hlabel]
        exact .refused hidle hcounted hexceeds
      | granted hcounted hwithin =>
        rw [hothers] at hcounted hwithin
        simp only [pure, Except.pure]
        rw [← granted_resize hfb]
        refine .granted hidle hcounted hwithin rfl ?_ ?_
        -- The new entry stands last on the account, and in the old place in the list.
        · have hsplit := List.set_perm_cons_eraseIdx hindex
            { fb with width := max width 1, height := max height 1 }
          rw [granted_resize hfb]
          refine ((h.kept_resize hfb).append_right _).trans ?_
          refine List.perm_append_comm.trans ?_
          exact (hsplit.map Framebuffer.entry).symm
        · rw [granted_resize hfb]
          exact (ids_resized hfb _ _).trans h.ids

theorem outcome (h : s.Accounted) (op : DeviceRequest) : Outcome op s (op.perform s) := by
  cases op with
  | create label width height => exact outcome_create h label width height
  | resize index width height => exact outcome_resize h index width height

/-! ## What requests add up to -/

theorem wanted_of_idle (h : op.Idle s) : op.granted s = s.framebuffers := by
  cases op with
  | create label width height => exact h.elim
  | resize index width height =>
    cases hfb : s.framebuffers[index]? with
    | none =>
      rw [granted, List.modify_eq_set_getElem?, hfb]
      rfl
    | some fb => rw [granted_resize hfb, (idle_resize_iff hfb).1 h, set_framebuffer hfb]

/-- A request that changes something leads to the bytes that it asks for, beside
those of the other framebuffers. -/
theorem wanted_eq (h : ¬ op.Idle s) : op.wanted s = op.others s + op.own := by
  cases op with
  | create label width height =>
    rw [wanted, granted, bytesOf_append]
    rfl
  | resize index width height =>
    simp only [Idle, not_forall] at h
    obtain ⟨fb, hfb, -⟩ := h
    obtain ⟨hindex, -⟩ := List.getElem?_eq_some_iff.1 hfb
    rw [wanted, granted_resize hfb, Nat.add_comm]
    exact bytesOf_perm (List.set_perm_cons_eraseIdx hindex _)

/-- **A request leaves the account in order.** -/
theorem perform_accounted (h : s.Accounted) (op : DeviceRequest) : (op.perform s).1.Accounted := by
  have houtcome := outcome h op
  generalize op.perform s = result at houtcome ⊢
  cases houtcome with
  | idle hidle => exact h
  | uncounted hidle hcounted => exact h
  | refused hidle hcounted hexceeds => exact h
  | granted hidle hcounted hwithin hbudget hentries hids =>
    refine ⟨hentries, hids, ?_⟩
    rw [Device.Exceeds, hbudget]
    rwa [← wanted_eq hidle] at hwithin

theorem perform_budget (h : s.Accounted) (op : DeviceRequest) :
    (op.perform s).1.device.budget = s.device.budget := by
  have houtcome := outcome h op
  generalize op.perform s = result at houtcome ⊢
  cases houtcome with
  | granted hidle hcounted hwithin hbudget hentries hids => exact hbudget
  | _ => rfl

/-- **The account is in order after any requests.** -/
theorem run_accounted (ops : List DeviceRequest) (h : s.Accounted) :
    (run ops s).Accounted ∧ (run ops s).device.budget = s.device.budget := by
  induction ops generalizing s with
  | nil => exact ⟨h, rfl⟩
  | cons op ops ih =>
    obtain ⟨haccounted, hbudget⟩ := ih (perform_accounted h op)
    exact ⟨haccounted, hbudget.trans (perform_budget h op)⟩

end DeviceRequest

/-! ## The account -/

/-- The account of a device is exact, and requests are answered by it. The sum
that a request would lead to is compared with the budget, unless it is beyond
64 bits; without a budget there is nothing to compare, and only single
framebuffers and those beside them have to be counted. -/
structure Holdings.Exact (s : Holdings) (budget : Option UInt64) : Prop where
  /-- The sum over the framebuffers as they are, unless 64 bits cannot hold it. -/
  allocated : s.device.allocated = if bytesOf s.framebuffers < UInt64.size
    then .ok (bytesOf s.framebuffers) else .error .uncountable
  ids : (s.framebuffers.map Framebuffer.id).Nodup
  /-- A request is granted, or nothing is changed. -/
  answered : ∀ op : DeviceRequest,
    ((op.perform s).2 = none ∧ (op.perform s).1.framebuffers = op.granted s) ∨
      ((op.perform s).2 ≠ none ∧ (op.perform s).1 = s)
  /-- The budget is kept, so that 64 bits can hold the sum. -/
  within : ∀ b, budget = some b → bytesOf s.framebuffers ≤ b.toNat ∧
    s.device.allocated = .ok (bytesOf s.framebuffers)
  budgeted : ∀ b, budget = some b → ∀ op : DeviceRequest,
    ((op.perform s).2 = none ↔ op.wanted s ≤ b.toNat) ∧
      ((op.perform s).2 = some (.refused (op.label s) op.size.1 op.size.2) ↔
        b.toNat < op.wanted s ∧ op.wanted s < UInt64.size) ∧
      ((op.perform s).2 = some .uncountable ↔ UInt64.size ≤ op.wanted s)
  unlimited : budget = none → ∀ op : DeviceRequest,
    ((op.perform s).2 = none ↔
        op.Idle s ∨ (op.own < UInt64.size ∧ op.others s < UInt64.size)) ∧
      ((op.perform s).2 = some .uncountable ↔
        ¬ op.Idle s ∧ (UInt64.size ≤ op.own ∨ UInt64.size ≤ op.others s))

namespace DeviceRequest

open Holdings (Accounted fresh)

variable {op : DeviceRequest} {s : Holdings} {b : UInt64}

theorem not_exceeds_iff (hbudget : s.device.budget = some b) (n : Nat) :
    ¬ s.device.Exceeds n ↔ n ≤ b.toNat := by
  simp [Device.Exceeds, hbudget]

/-- With a budget the sum is all that matters. -/
theorem uncounted_iff (hbudget : s.device.budget = some b) :
    s.device.Uncounted (op.others s) op.own ↔ UInt64.size ≤ op.others s + op.own := by
  simp only [Device.Uncounted, hbudget, ne_eq, reduceCtorEq, not_false_eq_true, true_and]
  omega

theorem answered_budgeted (h : s.Accounted) (hbudget : s.device.budget = some b)
    (op : DeviceRequest) :
    ((op.perform s).2 = none ↔ op.wanted s ≤ b.toNat) ∧
      ((op.perform s).2 = some (.refused (op.label s) op.size.1 op.size.2) ↔
        b.toNat < op.wanted s ∧ op.wanted s < UInt64.size) ∧
      ((op.perform s).2 = some .uncountable ↔ UInt64.size ≤ op.wanted s) := by
  have hword : b.toNat < UInt64.size := b.toNat_lt
  have houtcome := outcome h op
  generalize op.perform s = result at houtcome ⊢
  cases houtcome with
  | idle hidle =>
    have hwithin := h.within
    rw [not_exceeds_iff hbudget, ← wanted_of_idle hidle] at hwithin
    change op.wanted s ≤ b.toNat at hwithin
    simp only [true_iff, reduceCtorEq, false_iff]
    omega
  | uncounted hidle hcounted =>
    rw [uncounted_iff hbudget, ← wanted_eq hidle] at hcounted
    simp only [true_iff, reduceCtorEq, false_iff, Option.some.injEq]
    omega
  | refused hidle hcounted hexceeds =>
    rw [uncounted_iff hbudget, ← wanted_eq hidle] at hcounted
    rw [← not_not (a := s.device.Exceeds _), not_exceeds_iff hbudget, ← wanted_eq hidle] at hexceeds
    simp only [true_iff, reduceCtorEq, false_iff, Option.some.injEq]
    omega
  | granted hidle hcounted hwithin hkept hentries hids =>
    rw [not_exceeds_iff hbudget, ← wanted_eq hidle] at hwithin
    simp only [true_iff, reduceCtorEq, false_iff]
    omega

theorem answered_unlimited (h : s.Accounted) (hbudget : s.device.budget = none)
    (op : DeviceRequest) :
    ((op.perform s).2 = none ↔
        op.Idle s ∨ (op.own < UInt64.size ∧ op.others s < UInt64.size)) ∧
      ((op.perform s).2 = some .uncountable ↔
        ¬ op.Idle s ∧ (UInt64.size ≤ op.own ∨ UInt64.size ≤ op.others s)) := by
  have hiff : s.device.Uncounted (op.others s) op.own ↔
      UInt64.size ≤ op.own ∨ UInt64.size ≤ op.others s := by
    simp [Device.Uncounted, hbudget]
  have houtcome := outcome h op
  generalize op.perform s = result at houtcome ⊢
  cases houtcome with
  | idle hidle => simp [hidle]
  | uncounted hidle hcounted =>
    rw [hiff] at hcounted
    simp only [hidle, reduceCtorEq, false_iff, false_or, not_false_eq_true, true_and, true_iff]
    omega
  | refused hidle hcounted hexceeds =>
    obtain ⟨b, hb, -⟩ := hexceeds
    simp [hbudget] at hb
  | granted hidle hcounted hwithin hkept hentries hids =>
    rw [hiff] at hcounted
    simp only [hidle, reduceCtorEq, false_iff, false_or, not_false_eq_true, true_and, true_iff]
    omega

/-- **The account is exact after any requests**, and the next one is answered by
it. Only a number beyond 64 bits is in the way. -/
theorem account_exact (budget : Option UInt64) (ops : List DeviceRequest) :
    (run ops (fresh budget)).Exact budget := by
  obtain ⟨h, hbudget⟩ := run_accounted ops (Holdings.accounted_fresh budget)
  change _ = budget at hbudget
  constructor
  case allocated => exact h.allocated
  case ids => exact h.ids ▸ List.nodup_range
  case answered =>
    intro op
    have houtcome := outcome h op
    generalize op.perform (run ops (fresh budget)) = result at houtcome ⊢
    cases houtcome with
    | idle hidle => exact .inl ⟨rfl, (wanted_of_idle hidle).symm⟩
    | uncounted hidle hcounted => exact .inr ⟨nofun, rfl⟩
    | refused hidle hcounted hexceeds => exact .inr ⟨nofun, rfl⟩
    | granted hidle hcounted hwithin hkept hentries hids => exact .inl ⟨rfl, rfl⟩
  case within =>
    intro b hb
    have hwithin := h.within
    rw [not_exceeds_iff (hbudget.trans hb)] at hwithin
    exact ⟨hwithin, h.allocated.trans
      (Device.count_of_lt (Nat.lt_of_le_of_lt hwithin b.toNat_lt))⟩
  case budgeted => exact fun b hb => answered_budgeted h (hbudget.trans hb)
  case unlimited => exact fun hnone => answered_unlimited h (hbudget.trans hnone)

/-- A framebuffer with as many bytes as there are numbers of 64 bits. -/
def boundless : DeviceRequest := .create "boundless" 2147483648 2147483648

/-- A framebuffer with half as many. -/
def half : DeviceRequest := .create "half" 2147483648 1073741824

/-- **What is beyond the budget need not be refused**: there is a fault when its
bytes cannot be counted. And what is granted without a budget need not be
counted: there is a fault when somebody asks for the bytes of two halves. -/
theorem boundless_uncounted :
    (boundless.perform (fresh (some 100))).2 = some .uncountable ∧
      AllocationError.fault? .uncountable = some .overflow ∧
      100 < boundless.wanted (fresh (some 100)) ∧
      (run [half, half] (fresh none)).framebuffers.length = 2 ∧
      (run [half, half] (fresh none)).device.allocated = .error .uncountable := by
  decide +kernel

end DeviceRequest

end ParticleTimeline
