import ParticleTimeline.Table
/-!
# What a table holds

Setting a name that a table does not have adds one entry and keeps the
others; where the entry comes to stand does not matter, so what many
insertions leave is known up to the order (`insertAll_perm`). Whatever order
its entries are set in, a table is sorted (`sorted_ofList`), and what is sorted
is the table of its entries (`ofList_of_sorted`).
-/

namespace ParticleTimeline

namespace Table

variable {α : Type}

theorem mem_names_insert {name other : String} {value : α} {t : Table α} :
    other ∈ names (insert name value t) ↔ other = name ∨ other ∈ names t := by
  induction t with
  | nil => simp [insert, names]
  | cons e t ih =>
    obtain ⟨key, old⟩ := e
    rw [insert]
    split
    · simp [names]
    · split
      · rename_i hkey
        simp [names, hkey]
      · simp only [names, List.map_cons, List.mem_cons] at ih ⊢
        rw [ih, or_left_comm]

theorem insert_perm {name : String} {value : α} {t : Table α} (h : name ∉ names t) :
    (insert name value t).Perm ((name, value) :: t) := by
  induction t with
  | nil => exact .refl _
  | cons e t ih =>
    obtain ⟨key, old⟩ := e
    simp only [names, List.map_cons, List.mem_cons, not_or] at h
    rw [insert]
    split
    · exact .refl _
    · rw [if_neg h.1]
      exact ((ih h.2).cons _).trans (.swap _ _ _)

theorem get?_eq_none_iff {name : String} {t : Table α} : get? t name = none ↔ name ∉ names t := by
  simp only [get?, names, List.lookup_eq_none_iff, List.mem_map, bne_iff_ne]
  constructor
  · rintro h ⟨e, he, rfl⟩
    exact h e he rfl
  · rintro h e he rfl
    exact h ⟨e, he, rfl⟩

theorem get?_cons (name key : String) (old : α) (t : Table α) :
    get? ((key, old) :: t) name = if name = key then some old else get? t name := by
  by_cases h : name = key
  · subst h
    rw [get?, List.lookup_cons_self, if_pos rfl]
  · rw [get?, List.lookup_cons, beq_eq_false_iff_ne.2 h, if_neg h, get?]

theorem mem_of_get? {name : String} {value : α} {t : Table α} (h : get? t name = some value) :
    (name, value) ∈ t := by
  induction t with
  | nil => cases h
  | cons e t ih =>
    obtain ⟨key, old⟩ := e
    rw [get?_cons] at h
    split at h
    · rename_i hsame
      rw [hsame, Option.some.inj h]
      exact List.mem_cons_self
    · exact List.mem_cons_of_mem _ (ih h)

/-- Where each name comes once, every entry is what its name has. -/
theorem get?_of_mem {e : String × α} {t : Table α} (h : (names t).Nodup) (he : e ∈ t) :
    get? t e.1 = some e.2 := by
  induction t with
  | nil => exact absurd he List.not_mem_nil
  | cons f t ih =>
    obtain ⟨key, old⟩ := f
    obtain ⟨hhead, htail⟩ := List.nodup_cons.1 h
    rw [get?_cons]
    rcases List.mem_cons.1 he with rfl | he
    · rw [if_pos rfl]
    · have hother : e.1 ≠ key := by
        intro hsame
        exact hhead (List.mem_map.2 ⟨e, he, hsame⟩)
      rw [if_neg hother, ih htail he]

/-- **A name that is set has its value**, and the others have theirs. -/
theorem get?_insert {name other : String} {value : α} {t : Table α} :
    get? (insert name value t) other = if other = name then some value else get? t other := by
  induction t with
  | nil => rw [insert, get?_cons]
  | cons e t ih =>
    obtain ⟨key, old⟩ := e
    rw [insert]
    split
    · rw [get?_cons]
    · split
      · rename_i hkey
        subst hkey
        rw [get?_cons, get?_cons]
        split <;> rfl
      · rename_i hkey
        rw [get?_cons, get?_cons, ih]
        by_cases hother : other = key
        · have hname : other ≠ name := by
            rintro rfl
            exact hkey hother
          rw [if_pos hother, if_neg hname, if_pos hother]
        · rw [if_neg hother, if_neg hother]

/-- Sets many names, the first one first. -/
def insertAll (es : List (String × α)) (t : Table α) : Table α :=
  es.foldl (fun t e => insert e.1 e.2 t) t

theorem insertAll_eq_ofList (es : List (String × α)) : insertAll es [] = ofList es := rfl

@[simp] theorem insertAll_nil (t : Table α) : insertAll [] t = t := rfl

@[simp] theorem insertAll_cons (e : String × α) (es : List (String × α)) (t : Table α) :
    insertAll (e :: es) t = insertAll es (insert e.1 e.2 t) := rfl

theorem insertAll_append (es fs : List (String × α)) (t : Table α) :
    insertAll (es ++ fs) t = insertAll fs (insertAll es t) :=
  List.foldl_append

theorem mem_names_insertAll {es : List (String × α)} {t : Table α} {name : String} :
    name ∈ names (insertAll es t) ↔ name ∈ names es ∨ name ∈ names t := by
  induction es generalizing t with
  | nil => simp [names]
  | cons e es ih =>
    rw [insertAll_cons, ih, mem_names_insert]
    simp only [names, List.map_cons, List.mem_cons]
    rw [← or_assoc, or_comm (a := _ ∈ List.map Prod.fst es)]

theorem get?_insertAll_of_notMem {es : List (String × α)} {t : Table α} {name : String}
    (h : name ∉ names es) : get? (insertAll es t) name = get? t name := by
  induction es generalizing t with
  | nil => rfl
  | cons e es ih =>
    simp only [names, List.map_cons, List.mem_cons, not_or] at h
    rw [insertAll_cons, ih h.2, get?_insert, if_neg h.1]

/-- What is set, under different names, is there. -/
theorem get?_insertAll {es : List (String × α)} {t : Table α} (h : (names es).Nodup)
    {e : String × α} (he : e ∈ es) : get? (insertAll es t) e.1 = some e.2 := by
  induction es generalizing t with
  | nil => exact absurd he List.not_mem_nil
  | cons f es ih =>
    obtain ⟨hhead, htail⟩ := List.nodup_cons.1 h
    rcases List.mem_cons.1 he with rfl | he
    · rw [insertAll_cons, get?_insertAll_of_notMem hhead, get?_insert, if_pos rfl]
    · exact ih htail he

/-- **Entries with new and different names are all added**, and nothing is
lost. -/
theorem insertAll_perm {es : List (String × α)} {t : Table α} (hnew : (names es).Nodup)
    (hapart : ∀ name ∈ names es, name ∉ names t) : (insertAll es t).Perm (t ++ es) := by
  induction es generalizing t with
  | nil => simp
  | cons e es ih =>
    obtain ⟨hhead, htail⟩ := List.nodup_cons.1 hnew
    have hfresh : e.1 ∉ names t := hapart e.1 (by simp [names])
    -- The names differ, so the one that is set here is not to come again.
    have hrest : ∀ name ∈ names es, name ∉ names (insert e.1 e.2 t) := by
      intro name hmem hin
      rcases mem_names_insert.1 hin with rfl | hin
      · exact hhead hmem
      · exact hapart name (List.mem_cons_of_mem _ hmem) hin
    calc (insertAll es (insert e.1 e.2 t)).Perm (insert e.1 e.2 t ++ es) := ih htail hrest
      _ |>.Perm (e :: t ++ es) := (insert_perm hfresh).append_right es
      _ |>.Perm (t ++ e :: es) := List.perm_middle.symm

theorem ofList_perm {es : List (String × α)} (h : (names es).Nodup) : (ofList es).Perm es :=
  insertAll_perm h fun _ _ => List.not_mem_nil

/-- What is in a table once an entry is set is that entry, or was there. -/
theorem mem_insert {e : String × α} {name : String} {value : α} {t : Table α}
    (h : e ∈ insert name value t) : e = (name, value) ∨ e ∈ t := by
  induction t with
  | nil => exact .inl (List.mem_singleton.1 h)
  | cons f t ih =>
    obtain ⟨other, old⟩ := f
    rw [insert] at h
    split at h
    · exact (List.mem_cons.1 h).imp_right id
    · split at h
      · exact (List.mem_cons.1 h).imp_right (List.mem_cons_of_mem _)
      · rcases List.mem_cons.1 h with rfl | h
        · exact .inr List.mem_cons_self
        · exact (ih h).imp_right (List.mem_cons_of_mem _)

theorem mem_insertAll {e : String × α} {es : List (String × α)} {t : Table α}
    (h : e ∈ insertAll es t) : e ∈ es ∨ e ∈ t := by
  induction es generalizing t with
  | nil => exact .inr h
  | cons f es ih =>
    rcases ih h with h | h
    · exact .inl (List.mem_cons_of_mem _ h)
    · rcases mem_insert h with rfl | h
      · exact .inl List.mem_cons_self
      · exact .inr h

/-! ## Order -/

/-- Entries in increasing order of their names, each name once. -/
def Sorted (t : Table α) : Prop := t.Pairwise fun e f => e.1 < f.1

/-- A name behind all others is put at the end. -/
theorem insert_last {name : String} {t : Table α} (h : ∀ other ∈ names t, other < name)
    (value : α) : insert name value t = t ++ [(name, value)] := by
  induction t with
  | nil => rfl
  | cons e t ih =>
    obtain ⟨other, old⟩ := e
    simp only [names, List.map_cons, List.forall_mem_cons] at h
    have hbefore : ¬ name < other := String.lt_asymm h.1
    have hother : name ≠ other := by
      rintro rfl
      exact String.lt_irrefl _ h.1
    rw [insert, if_neg hbefore, if_neg hother, ih h.2]
    rfl

/-- **Entries that are in order stay as they are.** -/
theorem ofList_of_sorted {es : List (String × α)} (h : Sorted es) : ofList es = es := by
  have hall : ∀ (es t : List (String × α)), Sorted (t ++ es) → insertAll es t = t ++ es := by
    intro es
    induction es with
    | nil => simp
    | cons e es ih =>
      intro t hsorted
      have hlast : ∀ other ∈ names t, other < e.1 := by
        intro other hother
        obtain ⟨f, hf, rfl⟩ := List.mem_map.1 hother
        exact (List.pairwise_append.1 hsorted).2.2 f hf e List.mem_cons_self
      rw [insertAll_cons, insert_last hlast, ih _ (by simpa using hsorted)]
      simp
  exact hall es [] h

theorem sorted_insert {name : String} {value : α} {t : Table α} (h : Sorted t) :
    Sorted (insert name value t) := by
  induction t with
  | nil => exact List.pairwise_singleton _ _
  | cons e t ih =>
    obtain ⟨other, old⟩ := e
    obtain ⟨hfirst, hrest⟩ := List.pairwise_cons.1 h
    rw [insert]
    split
    · rename_i hbefore
      refine List.pairwise_cons.2 ⟨fun f hf => ?_, h⟩
      rcases List.mem_cons.1 hf with rfl | hf
      · exact hbefore
      · exact String.lt_trans hbefore (hfirst f hf)
    · rename_i hbefore
      split
      · rename_i hsame
        subst hsame
        exact List.pairwise_cons.2 ⟨hfirst, hrest⟩
      · rename_i hother
        have hbehind : other < name := Std.lt_of_le_of_ne (String.not_lt.1 hbefore) (Ne.symm hother)
        refine List.pairwise_cons.2 ⟨fun f hf => ?_, ih hrest⟩
        rcases mem_insert hf with rfl | hf
        · exact hbehind
        · exact hfirst f hf

theorem sorted_insertAll {t : Table α} (h : Sorted t) (es : List (String × α)) :
    Sorted (insertAll es t) := by
  induction es generalizing t with
  | nil => exact h
  | cons e es ih => exact ih (sorted_insert h)

/-- **A table is sorted**, whatever order its entries were set in. -/
theorem sorted_ofList (es : List (String × α)) : Sorted (ofList es) :=
  sorted_insertAll List.Pairwise.nil es

/-- Setting a name to the value it has changes nothing. -/
theorem insert_of_get? {name : String} {value : α} {t : Table α} (hsorted : Sorted t)
    (h : get? t name = some value) : insert name value t = t := by
  induction t with
  | nil => cases h
  | cons e t ih =>
    obtain ⟨other, old⟩ := e
    obtain ⟨hfirst, hrest⟩ := List.pairwise_cons.1 hsorted
    rw [get?_cons] at h
    split at h
    · rename_i hsame
      subst hsame
      rw [insert, if_neg (String.lt_irrefl name), if_pos rfl, Option.some.inj h]
    · rename_i hsame
      have hbehind : ¬ name < other := String.lt_asymm (hfirst _ (mem_of_get? h))
      rw [insert, if_neg hbehind, if_neg hsame, ih hrest h]

theorem insertAll_of_get? {es : List (String × α)} {t : Table α} (hsorted : Sorted t)
    (h : ∀ e ∈ es, get? t e.1 = some e.2) : insertAll es t = t := by
  induction es with
  | nil => rfl
  | cons e es ih =>
    obtain ⟨hhead, htail⟩ := List.forall_mem_cons.1 h
    rw [insertAll_cons, insert_of_get? hsorted hhead, ih htail]

end Table

end ParticleTimeline
