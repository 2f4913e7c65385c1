import Mathlib.Data.List.Forall2
import ParticleTimeline.Proofs.Json.Rereading
import ParticleTimeline.Proofs.Table
/-!
# Free-form values

A value that can be read is plain: whole numbers and finite doubles, nested so
and so deep (`Json.Plain`). If every number in a plain value is read back, so
is the value (`Json.Plain.reread`). What is kept of it is its canonical form,
which is plain as well and its own canonical form: a free-form value
(`Json.Plain.freeForm`).
-/

namespace ParticleTimeline

namespace JsonNumber

/-- Whether the number is one: an infinity is not, nor what is no number. -/
def isFinite : JsonNumber → Bool
  | natural _ | negative _ => true
  | double x => x.isFinite
  | single x => x.isFinite

/-- A float that is read back: a double as itself, a single as a number that
is rounded to it. -/
def ReadsBack : JsonNumber → Prop
  | natural _ | negative _ => True
  | double x => (double x).reread? = some (double x)
  | single x => (single x).reread?.map toSingle = some x

instance (n : JsonNumber) : Decidable n.ReadsBack := by
  cases n <;> unfold ReadsBack <;> infer_instance

/-- A number of one of the kinds that are read. -/
inductive Plain : JsonNumber → Prop
  | natural (n : UInt64) : Plain (.natural n)
  | negative {n : Int64} (h : n < 0) : Plain (.negative n)
  | double {x : Float} (h : x.isFinite = true) : Plain (.double x)

end JsonNumber

namespace Json

/-- A value that can be read, with at most so many levels of nesting. -/
inductive Plain : Nat → Json → Prop
  | null (k : Nat) : Plain k .null
  | bool (k : Nat) (b : Bool) : Plain k (.bool b)
  | number (k : Nat) {n : JsonNumber} (h : n.Plain) : Plain k (.number n)
  | text (k : Nat) (s : String) : Plain k (.text s)
  | array {k : Nat} {items : List Json} (h : ∀ v ∈ items, Plain k v) : Plain (k + 1) (.array items)
  | object {k : Nat} {entries : List (String × Json)} (h : ∀ e ∈ entries, Plain k e.2) :
      Plain (k + 1) (.object entries)

/-- A plain value in the form in which it is kept. -/
structure FreeForm (k : Nat) (v : Json) : Prop where
  plain : v.Plain k
  canonical_eq : v.canonical = v

/-! ## Numbers in a value -/

mutual

/-- The numbers in a value, in the order of its text. -/
def numbers : Json → List JsonNumber
  | .null | .bool _ | .text _ => []
  | .number n => [n]
  | .array items => itemNumbers items
  | .object entries => entryNumbers entries

def itemNumbers : List Json → List JsonNumber
  | [] => []
  | v :: items => numbers v ++ itemNumbers items

def entryNumbers : List (String × Json) → List JsonNumber
  | [] => []
  | (_, v) :: entries => numbers v ++ entryNumbers entries

end

section Numbers

variable {n m : JsonNumber}

theorem mem_numbers_number : n ∈ (Json.number m).numbers ↔ n = m := by
  simp [numbers]

theorem mem_numbers_array {items : List Json} :
    n ∈ (Json.array items).numbers ↔ ∃ v ∈ items, n ∈ v.numbers := by
  rw [numbers]
  induction items with
  | nil => simp [itemNumbers]
  | cons v items ih => simp [itemNumbers, ih]

theorem mem_numbers_object {entries : List (String × Json)} :
    n ∈ (Json.object entries).numbers ↔ ∃ e ∈ entries, n ∈ e.2.numbers := by
  rw [numbers]
  induction entries with
  | nil => simp [entryNumbers]
  | cons e entries ih => simp [entryNumbers, ih]

end Numbers

/-! ## Members -/

/-- Where each name comes once, every entry is the member of its name. -/
theorem member?_ofList {es : List (String × Json)} (h : (Table.names es).Nodup) {e : String × Json}
    (he : e ∈ es) : (Json.object (Table.ofList es)).member? e.1 = some e.2 := by
  have hperm : (Table.ofList es).reverse.Perm es :=
    (List.reverse_perm _).trans (Table.ofList_perm h)
  exact Table.get?_of_mem ((hperm.map Prod.fst).nodup_iff.2 h) (hperm.mem_iff.2 he)

/-- The numbers in a member are numbers of the object. -/
theorem mem_numbers_member? {c v : Json} {name : String} {n : JsonNumber}
    (h : c.member? name = some v) (hn : n ∈ v.numbers) : n ∈ c.numbers := by
  cases c with
  | object entries =>
    have hmem : (name, v) ∈ entries.reverse := Table.mem_of_get? h
    exact mem_numbers_object.2 ⟨(name, v), List.mem_reverse.1 hmem, hn⟩
  | _ => cases h

/-! ## Reading back -/

/-- **A plain value is read back** if every number in it is. -/
theorem Plain.reread {k : Nat} {v : Json} (h : Plain k v)
    (hnumbers : ∀ n ∈ v.numbers, n.isFinite = true → n.ReadsBack) : Reread k v v := by
  induction h with
  | null k => exact Reread.null.mono (Nat.zero_le k)
  | bool k b => exact (Reread.bool b).mono (Nat.zero_le k)
  | @number k n h =>
    refine Reread.mono ?_ (Nat.zero_le k)
    cases h with
    | natural n => exact Reread.natural n
    | negative h => exact Reread.negative h
    | double h => exact Reread.number (hnumbers _ (mem_numbers_number.2 rfl) h)
  | text k s => exact (Reread.text s).mono (Nat.zero_le k)
  | @array k items h ih =>
    refine Reread.array (List.forall₂_same.2 fun v hv => ih v hv fun n hn => ?_)
    exact hnumbers n (mem_numbers_array.2 ⟨v, hv, hn⟩)
  | @object k entries h ih =>
    refine Reread.object (List.forall₂_same.2 fun e he => ⟨rfl, ih e he fun n hn => ?_⟩)
    exact hnumbers n (mem_numbers_object.2 ⟨e, he, hn⟩)

/-! ## The canonical form -/

theorem canonicalItems_eq (items : List Json) : canonicalItems items = items.map canonical := by
  induction items with
  | nil => simp [canonicalItems]
  | cons v items ih => simp [canonicalItems, ih]

theorem canonicalEntries_eq (entries : List (String × Json)) :
    canonicalEntries entries = Table.mapValues canonical entries := by
  rw [Table.mapValues]
  induction entries with
  | nil => simp [canonicalEntries]
  | cons e entries ih => simp [canonicalEntries, ih]

/-- The entries of a canonical object are those of the object, in their
canonical form. -/
theorem mem_canonicalEntries {e : String × Json} {entries : List (String × Json)}
    (h : e ∈ Table.ofList (canonicalEntries entries)) :
    ∃ f ∈ entries, e = (f.1, f.2.canonical) := by
  rw [← Table.insertAll_eq_ofList, canonicalEntries_eq] at h
  rcases Table.mem_insertAll h with h | h
  · obtain ⟨f, hf, rfl⟩ := List.mem_map.1 h
    exact ⟨f, hf, rfl⟩
  · exact absurd h List.not_mem_nil

/-- **The canonical form of a plain value** is free-form. -/
theorem Plain.freeForm {k : Nat} {v : Json} (h : Plain k v) : FreeForm k v.canonical := by
  induction h with
  | null k => exact ⟨by simpa [canonical] using .null k, by simp [canonical]⟩
  | bool k b => exact ⟨by simpa [canonical] using .bool k b, by simp [canonical]⟩
  | @number k n h =>
    have hsame : (Json.number n).canonical = .number n := by
      cases h <;> simp [canonical]
    rw [hsame]
    exact ⟨.number k h, hsame⟩
  | text k s => exact ⟨by simpa [canonical] using .text k s, by simp [canonical]⟩
  | @array k items h ih =>
    rw [canonical, canonicalItems_eq]
    refine ⟨.array (List.forall_mem_map.2 fun v hv => (ih v hv).plain), ?_⟩
    have hitems : ∀ v ∈ items, (canonical ∘ canonical) v = canonical v :=
      fun v hv => (ih v hv).canonical_eq
    rw [canonical, canonicalItems_eq, List.map_map, List.map_congr_left hitems]
  | @object k entries h ih =>
    rw [canonical]
    have hentries : ∀ e ∈ Table.ofList (canonicalEntries entries), FreeForm k e.2 := by
      intro e he
      obtain ⟨f, hf, rfl⟩ := mem_canonicalEntries he
      exact ih f hf
    refine ⟨.object fun e he => (hentries e he).plain, ?_⟩
    have hsame : Table.mapValues canonical (Table.ofList (canonicalEntries entries))
        = Table.ofList (canonicalEntries entries) := by
      have hpair : ∀ e ∈ Table.ofList (canonicalEntries entries), (e.1, e.2.canonical) = e :=
        fun e he => by rw [(hentries e he).canonical_eq]
      rw [Table.mapValues, List.map_congr_left hpair, List.map_id']
    rw [canonical, canonicalEntries_eq (Table.ofList _), hsame,
      Table.ofList_of_sorted (Table.sorted_ofList _)]

end Json

end ParticleTimeline
