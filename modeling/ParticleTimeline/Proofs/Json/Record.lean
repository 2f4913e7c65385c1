import Mathlib.Data.List.Nodup
import ParticleTimeline.Proofs.Json.Decoding
/-!
# What the entries of an object say of a record

A record is taken together from its entries one after the other, but what it
is in the end can be said for each of its members alone: at most one entry has
its name, and the member is what that entry is decoded to, or what it was at
the start (`Json.Member.Reads`). A record whose members do not touch each other
is decoded exactly to what all of them read (`Json.Decoder.members_eq_ok_iff`).
So it does not matter how the entries are ordered, which of them the record
does not know, and whether a default is written out (`Json.Respelled.reads_iff`).
-/

namespace ParticleTimeline

namespace Json

/-! ## Members -/

/-- A member of a record: how it is decoded, looked at and set. -/
structure Member (α : Type) where
  name : String
  Value : Type
  decode : Decoder Value
  get : α → Value
  set : α → Value → α

namespace Member

variable {α : Type} {m : Member α} {start a : α} {es fs : List (String × Json)}
variable {name : String} {v w : Json}

/-- A member of `a` is what some entries say. -/
structure Reads (m : Member α) (start a : α) (es : List (String × Json)) : Prop where
  once : (es.map Prod.fst).count m.name ≤ 1
  given : ∀ v, (m.name, v) ∈ es → m.decode v = .ok (m.get a)
  leftOut : m.name ∉ es.map Prod.fst → m.get a = m.get start

/-- **The order of the entries does not matter.** -/
theorem Reads.perm (h : es.Perm fs) (hreads : m.Reads start a es) : m.Reads start a fs where
  once := (h.map Prod.fst).count_eq m.name ▸ hreads.once
  given v hv := hreads.given v (h.mem_iff.2 hv)
  leftOut hout := hreads.leftOut fun hin => hout ((h.map Prod.fst).mem_iff.1 hin)

theorem reads_perm (h : es.Perm fs) : m.Reads start a es ↔ m.Reads start a fs :=
  ⟨.perm h, .perm h.symm⟩

/-- Without an entry of its name a member is as it was. -/
theorem reads_of_notMem (h : m.name ∉ es.map Prod.fst) :
    m.Reads start a es ↔ m.get a = m.get start := by
  refine ⟨fun hreads => hreads.leftOut h, fun hsame => ⟨?_, fun v hv => ?_, fun _ => hsame⟩⟩
  · rw [List.count_eq_zero.2 h]
    exact Nat.zero_le 1
  · exact absurd (List.mem_map.2 ⟨_, hv, rfl⟩) h

/-- Where an entry has its name, there is no other, and the member is decoded
from it. -/
theorem reads_cons_self :
    m.Reads start a ((m.name, v) :: es) ↔
      m.name ∉ es.map Prod.fst ∧ m.decode v = .ok (m.get a) := by
  constructor
  · rintro ⟨honce, hgiven, -⟩
    rw [List.map_cons, List.count_cons_self] at honce
    exact ⟨List.count_eq_zero.1 (by omega), hgiven v List.mem_cons_self⟩
  · rintro ⟨hout, hdecode⟩
    refine ⟨?_, fun w hw => ?_, fun h => absurd List.mem_cons_self h⟩
    · rw [List.map_cons, List.count_cons_self, List.count_eq_zero.2 hout]
    · rcases List.mem_cons.1 hw with heq | hw
      · obtain ⟨-, rfl⟩ := Prod.mk.inj heq
        exact hdecode
      · exact absurd (List.mem_map.2 ⟨_, hw, rfl⟩) hout

/-- An entry of another name does not matter. -/
theorem reads_cons_ne (h : name ≠ m.name) :
    m.Reads start a ((name, v) :: es) ↔ m.Reads start a es := by
  have hmem : ∀ w, (m.name, w) ∈ (name, v) :: es ↔ (m.name, w) ∈ es := by
    intro w
    rw [List.mem_cons, or_iff_right]
    exact fun heq => h (Prod.mk.inj heq).1.symm
  have hname : m.name ∈ ((name, v) :: es).map Prod.fst ↔ m.name ∈ es.map Prod.fst := by
    rw [List.map_cons, List.mem_cons, or_iff_right (Ne.symm h)]
  have hcount : (((name, v) :: es).map Prod.fst).count m.name = (es.map Prod.fst).count m.name :=
    List.count_cons_of_ne h
  constructor
  · rintro ⟨honce, hgiven, hout⟩
    exact ⟨hcount ▸ honce, fun w hw => hgiven w ((hmem w).2 hw), fun hn => hout (hname.not.2 hn)⟩
  · rintro ⟨honce, hgiven, hout⟩
    exact ⟨hcount ▸ honce, fun w hw => hgiven w ((hmem w).1 hw), fun hn => hout (hname.not.1 hn)⟩

/-- Entries of other names can be left out. -/
theorem reads_filter {p : String × Json → Bool} (h : ∀ e ∈ es, p e = false → e.1 ≠ m.name) :
    m.Reads start a (es.filter p) ↔ m.Reads start a es := by
  induction es with
  | nil => rfl
  | cons e es ih =>
    obtain ⟨name, v⟩ := e
    rw [List.forall_mem_cons] at h
    cases hp : p (name, v) with
    | false => rw [List.filter_cons_of_neg (by simp [hp]), reads_cons_ne (h.1 hp), ih h.2]
    | true =>
      rw [List.filter_cons_of_pos hp]
      by_cases hname : name = m.name
      · have hmem : m.name ∈ (es.filter p).map Prod.fst ↔ m.name ∈ es.map Prod.fst := by
          simp only [List.mem_map, List.mem_filter]
          constructor
          · rintro ⟨e, ⟨he, -⟩, heq⟩
            exact ⟨e, he, heq⟩
          · rintro ⟨e, he, heq⟩
            exact ⟨e, ⟨he, by_contra fun hne => h.2 e he (Bool.eq_false_iff.2 hne) heq⟩, heq⟩
        subst hname
        rw [reads_cons_self, reads_cons_self, hmem]
      · rw [reads_cons_ne hname, reads_cons_ne hname, ih h.2]

end Member

/-! ## Records -/

/-- A way to set members by their names that leaves the other members alone. -/
structure Separate {α : Type} (ms : List (Member α))
    (set : α → String → Json → Except Mismatch α) : Prop where
  distinct : (ms.map Member.name).Nodup
  set_eq : ∀ m ∈ ms, ∀ a v, set a m.name v = (m.decode v).map (m.set a)
  get_set : ∀ m ∈ ms, ∀ a x, m.get (m.set a x) = x
  get_set_ne : ∀ m ∈ ms, ∀ n ∈ ms, m.name ≠ n.name → ∀ a x, n.get (m.set a x) = n.get a
  /-- There is nothing more to a record than its members. -/
  determined : ∀ a b, (∀ m ∈ ms, m.get a = m.get b) → a = b

section Records

variable {α : Type} {ms : List (Member α)} {set : α → String → Json → Except Mismatch α}
variable {start a b : α} {es fs : List (String × Json)} {name : String} {v : Json}

/-- What is read for a member does not depend on what another one was set to. -/
theorem Separate.reads_set_ne (h : Separate ms set) {k m : Member α} (hk : k ∈ ms) (hm : m ∈ ms)
    (hne : k.name ≠ m.name) (x : k.Value) : m.Reads (k.set a x) b es ↔ m.Reads a b es := by
  have hget := h.get_set_ne k hk m hm hne a x
  constructor
  · rintro ⟨honce, hgiven, hout⟩
    exact ⟨honce, hgiven, fun hn => (hout hn).trans hget⟩
  · rintro ⟨honce, hgiven, hout⟩
    exact ⟨honce, hgiven, fun hn => (hout hn).trans hget.symm⟩

/-- A value that changes nothing at the start is what the member is there. -/
theorem Separate.decode_of_default (h : Separate ms set) {m : Member α} (hm : m ∈ ms)
    (hset : set start m.name v = .ok start) : m.decode v = .ok (m.get start) := by
  rw [h.set_eq m hm] at hset
  cases hdecode : m.decode v with
  | error e =>
    rw [hdecode] at hset
    cases hset
  | ok x =>
    rw [hdecode] at hset
    have hstart : m.set start x = start := Except.ok.inj hset
    rw [← h.get_set m hm start x, hstart]

namespace Decoder

/-- What is decoded behind some names that have been seen. -/
theorem members_seen_eq_ok_iff (h : Separate ms set) {seen : List String} :
    members (ms.map Member.name) set seen a es = .ok b ↔
      ∀ m ∈ ms, m.Reads a b es ∧ (m.name ∈ seen → m.name ∉ es.map Prod.fst) := by
  induction es generalizing seen a with
  | nil =>
    rw [members, Except.ok.injEq]
    constructor
    · rintro rfl m -
      exact ⟨(Member.reads_of_notMem List.not_mem_nil).2 rfl, fun _ => List.not_mem_nil⟩
    · intro hreads
      refine h.determined a b fun m hm => ?_
      exact ((Member.reads_of_notMem List.not_mem_nil).1 (hreads m hm).1).symm
  | cons e es ih =>
    obtain ⟨name, v⟩ := e
    rw [members]
    split
    · rename_i hknown
      obtain ⟨k, hk, rfl⟩ := List.mem_map.1 hknown
      split
      -- Known, and there was one before.
      · rename_i hseen
        constructor
        · intro h
          cases h
        · intro hreads
          exact absurd List.mem_cons_self ((hreads k hk).2 hseen)
      · -- Known and new: the rest is read into a value that has this member set.
        rename_i hnew
        rw [h.set_eq k hk]
        cases hdecode : k.decode v with
        | error e =>
          constructor
          · intro h
            cases h
          · intro hreads
            have hself := (Member.reads_cons_self.1 (hreads k hk).1).2
            rw [hdecode] at hself
            cases hself
        | ok x =>
          change members _ set (k.name :: seen) (k.set a x) es = .ok b ↔ _
          rw [ih]
          refine forall₂_congr fun m hm => ?_
          by_cases hname : m.name = k.name
          · obtain rfl := List.inj_on_of_nodup_map h.distinct hm hk hname
            simp only [List.mem_cons, true_or, true_imp_iff, Member.reads_cons_self, hdecode,
              hnew, false_imp_iff, and_true, Except.ok.injEq]
            rw [and_comm]
            refine and_congr_right fun hout => ?_
            rw [Member.reads_of_notMem hout, h.get_set m hm, eq_comm]
          · have hne : k.name ≠ m.name := Ne.symm hname
            simp only [h.reads_set_ne hk hm hne, Member.reads_cons_ne hne, List.mem_cons, hname,
              false_or, List.map_cons]
    · -- Unknown, and passed over.
      rename_i hunknown
      rw [ih]
      refine forall₂_congr fun m hm => ?_
      have hne : name ≠ m.name := by
        rintro rfl
        exact hunknown (List.mem_map_of_mem hm)
      simp only [Member.reads_cons_ne hne, List.map_cons, List.mem_cons, Ne.symm hne, false_or]

/-- **A record is decoded to what its members read.** -/
theorem members_eq_ok_iff (h : Separate ms set) :
    members (ms.map Member.name) set [] start es = .ok a ↔ ∀ m ∈ ms, m.Reads start a es := by
  rw [members_seen_eq_ok_iff h]
  simp only [List.not_mem_nil, false_imp_iff, and_true]

/-- **A record that is given as an object**: its members read, and those that
are required are there. -/
theorem record_object_eq_ok_iff (h : Separate ms set) {title : String} {required : Nat} :
    record title (ms.map Member.name) required set start (.object es) = .ok a ↔
      (∀ m ∈ ms, m.Reads start a es) ∧
        ∀ f ∈ (ms.map Member.name).take required, f ∈ es.map Prod.fst := by
  have hmissing : (((ms.map Member.name).take required).find? fun f => !es.any (·.1 = f)) = none ↔
      ∀ f ∈ (ms.map Member.name).take required, f ∈ es.map Prod.fst := by
    simp [List.find?_eq_none]
  rw [← members_eq_ok_iff h, ← hmissing, record]
  cases members (ms.map Member.name) set [] start es with
  | error e => simp [bind, Except.bind]
  | ok b =>
    cases ((ms.map Member.name).take required).find? fun f => !es.any (·.1 = f) with
    | none => simp [bind, Except.bind, pure, Except.pure]
    | some f => simp [bind, Except.bind, throw, throwThe, MonadExceptOf.throw]

end Decoder

/-! ## Spellings -/

/-- One thing about the entries of an object that a record with some known names
does not notice. -/
inductive Respelled (known : List String) (isDefault : String → Json → Prop) :
    List (String × Json) → List (String × Json) → Prop
  | permuted {es fs : List (String × Json)} (h : es.Perm fs) : Respelled known isDefault es fs
  /-- There may be an entry with it already. -/
  | unknown {es fs : List (String × Json)} {name : String} {v : Json} (h : name ∉ known) :
      Respelled known isDefault (es ++ fs) (es ++ (name, v) :: fs)
  | writtenOut {es fs : List (String × Json)} {name : String} {v : Json} (h : isDefault name v)
      (hnew : name ∉ (es ++ fs).map Prod.fst) :
      Respelled known isDefault (es ++ fs) (es ++ (name, v) :: fs)

variable {known : List String} {isDefault : String → Json → Prop}

/-- **One step of another spelling**: no member reads anything else. -/
theorem Respelled.reads_iff (h : Respelled known isDefault es fs) {m : Member α}
    (hknown : m.name ∈ known)
    (hdefault : ∀ v, isDefault m.name v → m.decode v = .ok (m.get start)) :
    m.Reads start a es ↔ m.Reads start a fs := by
  cases h with
  | permuted h => exact Member.reads_perm h
  | @unknown es fs name v hunknown =>
    have hne : name ≠ m.name := by
      rintro rfl
      exact hunknown hknown
    rw [Member.reads_perm (@List.perm_middle _ (name, v) es fs), Member.reads_cons_ne hne]
  | @writtenOut es fs name v hwritten hnew =>
    rw [Member.reads_perm (@List.perm_middle _ (name, v) es fs)]
    by_cases hne : name = m.name
    · subst hne
      rw [Member.reads_of_notMem hnew, Member.reads_cons_self, hdefault v hwritten,
        Except.ok.injEq, and_iff_right hnew, eq_comm]
    · rw [Member.reads_cons_ne hne]

/-- Names that are known and have no default stay where they are, or away. -/
theorem Respelled.mem_names_iff (h : Respelled known isDefault es fs) {f : String}
    (hknown : f ∈ known) (hrequired : ∀ v, ¬ isDefault f v) :
    f ∈ es.map Prod.fst ↔ f ∈ fs.map Prod.fst := by
  have hinserted : ∀ {es fs : List (String × Json)} {name : String} {v : Json}, name ≠ f →
      (f ∈ (es ++ fs).map Prod.fst ↔ f ∈ (es ++ (name, v) :: fs).map Prod.fst) := by
    intro es fs name v hne
    simp only [List.map_append, List.map_cons, List.mem_append, List.mem_cons, Ne.symm hne,
      false_or]
  cases h with
  | permuted h => exact (h.map Prod.fst).mem_iff
  | @unknown es fs name v hunknown =>
    refine hinserted ?_
    rintro rfl
    exact hunknown hknown
  | @writtenOut es fs name v hwritten hnew =>
    refine hinserted ?_
    rintro rfl
    exact hrequired v hwritten

/-! ## Alike -/

/-- Two values that are decoded to the same, if they can be decoded. -/
def Alike (decode : Decoder α) (u v : Json) : Prop := ∀ a, decode u = .ok a ↔ decode v = .ok a

/-- What is written out in place of a field: what it is without the field, which
is not required. -/
def Decoder.IsDefault (fields : List String) (required : Nat)
    (set : α → String → Json → Except Mismatch α) (start : α) (name : String) (v : Json) : Prop :=
  name ∈ fields.drop required ∧ set start name v = .ok start

/-- **A record that is spelled otherwise** is the same record. -/
theorem Respelled.alike (h : Separate ms set) {title : String} {required : Nat}
    (hes : Respelled (ms.map Member.name)
      (Decoder.IsDefault (ms.map Member.name) required set start) es fs) :
    Alike (Decoder.record title (ms.map Member.name) required set start)
      (.object es) (.object fs) := by
  intro a
  rw [Decoder.record_object_eq_ok_iff h, Decoder.record_object_eq_ok_iff h]
  refine and_congr (forall₂_congr fun m hm => ?_) (forall₂_congr fun f hf => ?_)
  · exact hes.reads_iff (List.mem_map_of_mem hm) fun v hv => h.decode_of_default hm hv.2
  · refine hes.mem_names_iff (List.mem_of_mem_take hf) fun v hv => ?_
    -- No name is both among the required ones and behind them.
    exact List.disjoint_take_drop h.distinct (Nat.le_refl required) hf hv.1

/-- Of a value that stands among others, a member reads what it is decoded to, if
it has the name of the member. -/
theorem Alike.reads_iff {m : Member α} {u v : Json} (h : name = m.name → Alike m.decode u v) :
    m.Reads start a (es ++ (name, u) :: fs) ↔ m.Reads start a (es ++ (name, v) :: fs) := by
  rw [Member.reads_perm (@List.perm_middle _ (name, u) es fs),
    Member.reads_perm (@List.perm_middle _ (name, v) es fs)]
  by_cases hname : name = m.name
  · have halike := h hname
    subst hname
    rw [Member.reads_cons_self, Member.reads_cons_self, halike]
  · rw [Member.reads_cons_ne hname, Member.reads_cons_ne hname]

theorem Decoder.mapM_cons_eq_ok_iff {element : Decoder α} {w : Json} {ws : List Json}
    {as : List α} : (w :: ws).mapM element = .ok as ↔
      ∃ a as', element w = .ok a ∧ ws.mapM element = .ok as' ∧ as = a :: as' := by
  rw [List.mapM_cons]
  constructor
  · intro h
    obtain ⟨a, hhead, h⟩ := Reader.ok_of_bind h
    obtain ⟨as', htail, h⟩ := Reader.ok_of_bind h
    exact ⟨a, as', hhead, htail, (Except.ok.inj h).symm⟩
  · rintro ⟨a, as', hhead, htail, rfl⟩
    rw [hhead, htail]
    rfl

/-- One element that is written otherwise. -/
theorem Alike.list {element : Decoder α} {u v : Json} (h : Alike element u v)
    (front behind : List Json) :
    Alike (Decoder.list element) (.array (front ++ u :: behind))
      (.array (front ++ v :: behind)) := by
  intro as
  change (front ++ u :: behind).mapM element = _ ↔ (front ++ v :: behind).mapM element = _
  induction front generalizing as with
  | nil =>
    rw [List.nil_append, List.nil_append, Decoder.mapM_cons_eq_ok_iff, Decoder.mapM_cons_eq_ok_iff]
    exact exists_congr fun a => exists_congr fun as' => and_congr_left fun _ => h a
  | cons w front ih =>
    rw [List.cons_append, List.cons_append, Decoder.mapM_cons_eq_ok_iff,
      Decoder.mapM_cons_eq_ok_iff]
    exact exists_congr fun a => exists_congr fun as' =>
      and_congr_right fun _ => and_congr_left fun _ => ih as'

end Records

end Json

end ParticleTimeline
