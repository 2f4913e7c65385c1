import Mathlib.Data.List.Zip
import ParticleTimeline.Json.Decoder
import ParticleTimeline.Proofs.Json.FreeForm
/-!
# What decoders do

A list is decoded from what its elements are decoded from, and holds nothing
else (`Json.Decoder.list_map`, `Json.Decoder.mem_of_list`). The members of a
record are set one after the other (`Json.Decoder.members_eq_foldlM`), so what
every member keeps holds of the record, in whichever shape it is given
(`Json.Decoder.record_keeps`).
-/

namespace ParticleTimeline

namespace Json

open Reader (ok_of_bind)

theorem decode_word (n : UInt32) : Decoder.word (.word n) = .ok n := by
  rw [word, Decoder.word, if_pos (by simpa using n.toNat_lt)]
  simp

namespace Decoder

/-! ## Lists -/

/-- A list is decoded from what its elements are decoded from. -/
theorem list_map {α : Type} {element : Decoder α} {print : α → Json} {as : List α}
    (h : ∀ a ∈ as, element (print a) = .ok a) : list element (.array (as.map print)) = .ok as := by
  change (as.map print).mapM element = .ok as
  induction as with
  | nil => rfl
  | cons a as ih =>
    rw [List.forall_mem_cons] at h
    simp only [List.map_cons, List.mapM_cons, h.1, ih h.2, bind, Except.bind, pure, Except.pure]

/-- Three values are decoded if each of them is. -/
theorem triple_eq {α : Type} {element : Decoder α} {p : α → Bool} {x y z : α} {a b c : Json}
    {m : Mismatch} (ha : element a = if p x then .ok x else .error m)
    (hb : element b = if p y then .ok y else .error m)
    (hc : element c = if p z then .ok z else .error m) :
    triple element (.array [a, b, c]) = if [x, y, z].all p then .ok ⟨x, y, z⟩ else .error m := by
  by_cases hx : p x = true
  · by_cases hy : p y = true
    · by_cases hz : p z = true <;>
        simp [triple, exactly, ha, hb, hc, hx, hy, hz, bind, Except.bind, pure, Except.pure]
    · simp [triple, exactly, ha, hb, hx, hy, bind, Except.bind]
  · simp [triple, exactly, ha, hx, bind, Except.bind]

theorem mem_of_mapM {α : Type} {element : Decoder α} {items : List Json} {as : List α}
    (h : items.mapM element = .ok as) : ∀ a ∈ as, ∃ w ∈ items, element w = .ok a := by
  induction items generalizing as with
  | nil =>
    obtain rfl := Except.ok.inj h
    simp
  | cons w items ih =>
    rw [List.mapM_cons] at h
    obtain ⟨a, hhead, h⟩ := ok_of_bind h
    obtain ⟨as', htail, h⟩ := ok_of_bind h
    obtain rfl := Except.ok.inj h
    refine List.forall_mem_cons.2 ⟨⟨w, List.mem_cons_self, hhead⟩, fun b hb => ?_⟩
    obtain ⟨w', hw', heq⟩ := ih htail b hb
    exact ⟨w', List.mem_cons_of_mem _ hw', heq⟩

/-- What is in a list was decoded from an element. -/
theorem mem_of_list {α : Type} {element : Decoder α} {k : Nat} {v : Json} {as : List α}
    (hv : v.Plain (k + 1)) (h : list element v = .ok as) :
    ∀ a ∈ as, ∃ w : Json, w.Plain k ∧ element w = .ok a := by
  cases hv with
  | null => cases h
  | bool => cases h
  | number => cases h
  | text => cases h
  | object => cases h
  | @array _ items hitems =>
    intro a ha
    obtain ⟨w, hw, heq⟩ := mem_of_mapM h a ha
    exact ⟨w, hitems w hw, heq⟩

/-- What is taken from an array of a length was decoded from its elements. -/
theorem mem_of_exactly {α : Type} {element : Decoder α} {n : Nat} {v : Json} {as : List α}
    (h : exactly n element v = .ok as) :
    ∃ items, v = .array items ∧ ∀ a ∈ as, ∃ w ∈ items, element w = .ok a := by
  cases v with
  | array items =>
    refine ⟨items, rfl, fun a ha => ?_⟩
    obtain ⟨taken, hmap, h⟩ := ok_of_bind h
    have hsame : taken = as := by
      simp only [bind, Except.bind, pure, Except.pure] at h
      split at h
      · cases h
      · split at h
        · cases h
        · exact Except.ok.inj h
    obtain ⟨w, hw, heq⟩ := mem_of_mapM hmap a (hsame ▸ ha)
    exact ⟨w, List.mem_of_mem_take hw, heq⟩
  | _ => cases h

theorem mem_of_pair {α : Type} {element : Decoder α} {v : Json} {p : Vec2 α}
    (h : pair element v = .ok p) :
    ∃ items, v = .array items ∧ ∀ a ∈ p.toList, ∃ w ∈ items, element w = .ok a := by
  obtain ⟨taken, htaken, hrest⟩ := ok_of_bind h
  obtain ⟨items, rfl, hitems⟩ := mem_of_exactly htaken
  match taken, hrest, hitems with
  | [x, y], hrest, hitems =>
    have hsame : (⟨x, y⟩ : Vec2 α) = p := Except.ok.inj hrest
    exact ⟨items, rfl, hsame ▸ hitems⟩

theorem mem_of_triple {α : Type} {element : Decoder α} {v : Json} {c : Vec3 α}
    (h : triple element v = .ok c) :
    ∃ items, v = .array items ∧ ∀ a ∈ c.toList, ∃ w ∈ items, element w = .ok a := by
  obtain ⟨taken, htaken, hrest⟩ := ok_of_bind h
  obtain ⟨items, rfl, hitems⟩ := mem_of_exactly htaken
  match taken, hrest, hitems with
  | [x, y, z], hrest, hitems =>
    have hsame : (⟨x, y, z⟩ : Vec3 α) = c := Except.ok.inj hrest
    exact ⟨items, rfl, hsame ▸ hitems⟩

/-! ## Records -/

/-- **Members that are known and come once** are set one after the other. -/
theorem members_eq_foldlM {α : Type} {fields : List String}
    {set : α → String → Json → Except Mismatch α} {es : List (String × Json)} (a : α)
    (hknown : ∀ name ∈ es.map Prod.fst, name ∈ fields) (honce : (es.map Prod.fst).Nodup) :
    members fields set [] a es = es.foldlM (fun a e => set a e.1 e.2) a := by
  suffices hseen : ∀ seen : List String, (∀ name ∈ es.map Prod.fst, name ∉ seen) →
      members fields set seen a es = es.foldlM (fun a e => set a e.1 e.2) a from
    hseen [] fun name _ => List.not_mem_nil
  induction es generalizing a with
  | nil => exact fun seen _ => rfl
  | cons e es ih =>
    intro seen hnew
    obtain ⟨name, v⟩ := e
    rw [List.map_cons, List.forall_mem_cons] at hknown hnew
    rw [List.map_cons, List.nodup_cons] at honce
    rw [members, if_pos hknown.1, if_neg hnew.1, List.foldlM_cons]
    cases set a name v with
    | error m => rfl
    | ok a' =>
      refine ih a' hknown.2 honce.2 (name :: seen) fun other hother => ?_
      rw [List.mem_cons, not_or]
      exact ⟨fun heq => honce.1 (heq ▸ hother), hnew.2 other hother⟩

/-- **What every member keeps** holds of the record. -/
theorem members_keeps {α : Type} {P : α → Prop} {fields : List String}
    {set : α → String → Json → Except Mismatch α} {es : List (String × Json)}
    (hset : ∀ a, ∀ e ∈ es, ∀ a', P a → set a e.1 e.2 = .ok a' → P a') {seen : List String}
    {a a' : α} (ha : P a) (h : members fields set seen a es = .ok a') : P a' := by
  induction es generalizing seen a with
  | nil =>
    obtain rfl := Except.ok.inj h
    exact ha
  | cons e es ih =>
    obtain ⟨name, v⟩ := e
    have hrest := fun a e he => hset a e (List.mem_cons_of_mem _ he)
    rw [members] at h
    split at h
    · split at h
      · cases h
      · obtain ⟨a₁, hstep, h⟩ := ok_of_bind h
        exact ih hrest (hset a (name, v) List.mem_cons_self a₁ ha hstep) h
    · exact ih hrest ha h

/-- A record of a plain value is one of plain members, however it is given. -/
theorem record_keeps {α : Type} {P : α → Prop} {name : String} {fields : List String}
    {required k : Nat} {set : α → String → Json → Except Mismatch α} {start a : α} {v : Json}
    (hset : ∀ a name v a', v.Plain k → P a → set a name v = .ok a' → P a') (hstart : P start)
    (hv : v.Plain (k + 1)) (h : record name fields required set start v = .ok a) : P a := by
  cases hv with
  | null => cases h
  | bool => cases h
  | number => cases h
  | text => cases h
  | @array _ items hitems =>
    obtain ⟨a', hmembers, h⟩ := ok_of_bind h
    have ha' : P a' := by
      refine members_keeps (fun a e he a' ha hstep => ?_) hstart hmembers
      exact hset a e.1 e.2 a' (hitems e.2 (List.of_mem_zip he).2) ha hstep
    simp only [bind, Except.bind] at h
    split at h
    · cases h
    · split at h
      · cases h
      · obtain rfl := Except.ok.inj h
        exact ha'
  | @object _ entries hentries =>
    obtain ⟨a', hmembers, h⟩ := ok_of_bind h
    have ha' : P a' := by
      refine members_keeps (fun a e he a' ha hstep => ?_) hstart hmembers
      exact hset a e.1 e.2 a' (hentries e he) ha hstep
    split at h
    · cases h
    · obtain rfl := Except.ok.inj h
      exact ha'

end Decoder

end Json

end ParticleTimeline
