import ParticleTimeline.Glsl.Binding
import ParticleTimeline.Proofs.Glsl.Growth
import ParticleTimeline.Proofs.Table
import Std.Data.String.ToNat
/-!
# Identifiers and what is flushed

The number behind a name is set off by the last underscore, because a number
is written in digits alone; so an identifier gives back the number and the
name it was made of (`identifier_injective`), whatever the name looks like,
and a name that does not end in a digit is no identifier with a number
(`identifier_ne_of_unnumbered`). Bindings whose identifiers are new to a
table are therefore recorded whole, and flushing an allocator comes down to
text for one section and entries for the table (`Allocator.flush_eq`).
-/

namespace ParticleTimeline

/-! ## Identifiers -/

/-- Two texts that are split by a character at its last place are split
alike. -/
theorem append_cons_inj_of_notMem {α : Type} {xs ys ds es : List α} {c : α} (hd : c ∉ ds)
    (he : c ∉ es) (h : xs ++ c :: ds = ys ++ c :: es) : xs = ys ∧ ds = es := by
  -- If one text were split later, the tail of the other would have the character.
  rcases List.append_eq_append_iff.1 h with ⟨as, hys, hrest⟩ | ⟨as, hxs, hrest⟩
  · cases as with
    | nil => simp_all
    | cons a as =>
      obtain ⟨-, rfl⟩ := List.cons.inj hrest
      simp at hd
  · cases as with
    | nil => simp_all
    | cons a as =>
      obtain ⟨-, rfl⟩ := List.cons.inj hrest
      simp at he

theorem toList_identifier (n : Nat) (name : String) :
    (identifier (some n) name).toList = name.toList ++ '_' :: Nat.toDigits 10 n := by
  simp [identifier, Nat.toString_eq_repr, Nat.toList_repr]

/-- **An identifier tells its number and its name.** -/
theorem identifier_injective {m n : Nat} {x y : String}
    (h : identifier (some m) x = identifier (some n) y) : m = n ∧ x = y := by
  have hlist := congrArg String.toList h
  rw [toList_identifier, toList_identifier] at hlist
  obtain ⟨hname, hdigits⟩ := append_cons_inj_of_notMem Nat.underscore_not_in_toDigits
    Nat.underscore_not_in_toDigits hlist
  refine ⟨Nat.repr_injective (String.toList_injective ?_), String.toList_injective hname⟩
  rw [Nat.toList_repr, Nat.toList_repr, hdigits]

/-- A name that does not end in a digit. -/
def Unnumbered (name : String) : Prop := ∀ c, name.toList.getLast? = some c → c.isDigit = false

instance (name : String) : Decidable (Unnumbered name) :=
  match h : name.toList.getLast? with
  | none => isTrue fun c hc => by simp [h] at hc
  | some d => decidable_of_iff (d.isDigit = false) (by simp [Unnumbered, h])

theorem identifier_ne_of_unnumbered {n : Nat} {x name : String} (h : Unnumbered name) :
    identifier (some n) x ≠ name := by
  rintro rfl
  -- A number has a digit, and so an identifier ends in one.
  obtain ⟨ds, d, hds⟩ : ∃ ds d, Nat.toDigits 10 n = ds ++ [d] :=
    ⟨_, _, (List.dropLast_concat_getLast Nat.toDigits_ne_nil).symm⟩
  have hdigit : d.isDigit = true :=
    Nat.isDigit_of_mem_toDigits (b := 10) (n := n) (by decide) (by decide) (by simp [hds])
  have hlast : (identifier (some n) x).toList.getLast? = some d := by
    rw [toList_identifier, hds, ← List.cons_append, ← List.append_assoc,
      List.getLast?_concat]
  simp [h d hlast] at hdigit

/-! ## Allocators -/

namespace Allocator

variable {α : Type}

/-- The bindings as a table has them, in the order they were asked for. -/
def entries (a : Allocator α) : List (String × Entry α) :=
  a.bindings.map fun b => (identifier a.id b.name, { type := b.type, value := b.value })

/-- The lines that declare some entries. -/
def declarations (q : Qualifier) (es : List (String × Entry α)) : String :=
  String.join (es.map fun e => ShaderSource.declaration q e.2.type e.1)

@[simp] theorem declarations_nil (q : Qualifier) :
    declarations q ([] : List (String × Entry α)) = "" := by
  simp [declarations]

theorem declarations_append (q : Qualifier) (es fs : List (String × Entry α)) :
    declarations q (es ++ fs) = declarations q es ++ declarations q fs := by
  simp [declarations]

theorem declarations_flatMap {ι : Type} (q : Qualifier) (f : ι → List (String × Entry α))
    (is : List ι) :
    declarations q (is.flatMap f) = String.join (is.map fun i => declarations q (f i)) := by
  induction is with
  | nil => simp
  | cons i is ih => rw [List.flatMap_cons, declarations_append, ih, List.map_cons, String.join_cons]

theorem declareIn_eq_extend [Bindable α] (a : Allocator α) (s : ShaderSource) :
    a.declareIn s = s.extend (.only (Bindable.qualifier α).place
      (declarations (Bindable.qualifier α) a.entries)) := by
  obtain ⟨id, bindings⟩ := a
  simp only [declareIn, entries]
  induction bindings generalizing s with
  | nil =>
    simp
  | cons b bs ih =>
    rw [List.foldl_cons, ih, ShaderSource.declare_eq_extend, ShaderSource.extend_extend]
    congr 1
    ext1 k
    simp only [Sections.get_append, Sections.get_only, declarations, List.map_cons,
      String.join_cons]
    split <;> simp

theorem record_eq {id : Option Nat} {bs : List (Binding α)} {t : BindingTable α}
    (hnew : (bs.map fun b => identifier id b.name).Nodup)
    (hapart : ∀ b ∈ bs, identifier id b.name ∉ Table.names t) :
    record id bs t = (Table.insertAll (entries ⟨id, bs⟩) t, none) := by
  induction bs generalizing t with
  | nil => rfl
  | cons b bs ih =>
    obtain ⟨hhead, htail⟩ := List.nodup_cons.1 hnew
    have hnone : Table.get? t (identifier id b.name) = none :=
      Table.get?_eq_none_iff.2 (hapart b (by simp))
    have hrest : ∀ c ∈ bs, identifier id c.name ∉
        Table.names (Table.insert (identifier id b.name) ⟨b.type, b.value⟩ t) := by
      intro c hc hin
      rcases Table.mem_names_insert.1 hin with heq | hin
      · exact hhead (List.mem_map.2 ⟨c, hc, heq⟩)
      · exact hapart c (List.mem_cons_of_mem _ hc) hin
    simp only [record, hnone, Option.isSome_none]
    exact ih htail hrest

/-- **What flushing an allocator does** when its identifiers are new to the
table and no name was bound twice: one line for every binding, and one
entry. -/
theorem flush_eq [Bindable α] {a : Allocator α} {s : ShaderSource} {t : BindingTable α}
    (hnew : (a.bindings.map fun b => identifier a.id b.name).Nodup)
    (hapart : ∀ b ∈ a.bindings, identifier a.id b.name ∉ Table.names t) :
    a.flush s t = (s.extend (.only (Bindable.qualifier α).place
      (declarations (Bindable.qualifier α) a.entries)), Table.insertAll a.entries t, none) := by
  rw [flush, declareIn_eq_extend, record_eq hnew hapart]

/-- Names that are different stay so under one number. -/
theorem nodup_identifiers {n : Nat} {bs : List (Binding α)} (h : (bs.map Binding.name).Nodup) :
    (bs.map fun b => identifier (some n) b.name).Nodup := by
  have : (bs.map fun b => identifier (some n) b.name)
      = (bs.map Binding.name).map (identifier (some n)) := by simp
  rw [this]
  exact List.Pairwise.map _ (fun _ _ hne heq => hne (identifier_injective heq).2) h

end Allocator

end ParticleTimeline
