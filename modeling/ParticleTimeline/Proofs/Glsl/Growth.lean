import ParticleTimeline.Glsl.Stages
/-!
# Sources that only grow

Everything that can be done to a source but rolling it back puts text behind
one of its sections, so a source is what it was before with further text in
every section: `extend`. Rolling back to a mark undoes every extension made
since (`rollback_mark_extend`); the cut never falls inside a character,
because the mark is the end of a text that is still there. What a source is
cut to further on does not depend on the text it began with
(`rollback_extend`).
-/

namespace ParticleTimeline

namespace Sections

variable {α : Type}

@[ext] theorem ext_get {t u : Sections α} (h : ∀ k, t.get k = u.get k) : t = u := by
  obtain ⟨a, b, c, d, e⟩ := t
  obtain ⟨a', b', c', d', e'⟩ := u
  have h1 : a = a' := h .attributes
  have h2 : b = b' := h .uniforms
  have h3 : c = c' := h .varyings
  have h4 : d = d' := h .globals
  have h5 : e = e' := h .body
  rw [h1, h2, h3, h4, h5]

/-- No text in any section. -/
def blank : Sections String := ⟨"", "", "", "", ""⟩

/-- Section by section, one text behind the other. -/
protected def append (t u : Sections String) : Sections String where
  attributes := t.attributes ++ u.attributes
  uniforms := t.uniforms ++ u.uniforms
  varyings := t.varyings ++ u.varyings
  globals := t.globals ++ u.globals
  body := t.body ++ u.body

instance : Append (Sections String) := ⟨Sections.append⟩

/-- Text in one section. -/
def only (k : Section) (text : String) : Sections String := blank.set k text

@[simp] theorem get_blank (k : Section) : blank.get k = "" := by cases k <;> rfl

@[simp] theorem get_append (t u : Sections String) (k : Section) :
    (t ++ u).get k = t.get k ++ u.get k := by
  cases k <;> rfl

@[simp] theorem get_only (k l : Section) (text : String) :
    (only k text).get l = if l = k then text else "" := by
  simp [only]

@[simp] theorem only_empty (k : Section) : only k "" = blank := by
  ext1 l
  simp

theorem append_assoc (t u v : Sections String) : t ++ u ++ v = t ++ (u ++ v) := by
  ext1 k
  simp [String.append_assoc]

@[simp] theorem append_blank (t : Sections String) : t ++ blank = t := by
  ext1 k
  simp

@[simp] theorem blank_append (t : Sections String) : blank ++ t = t := by
  ext1 k
  simp

/-- Many texts for every section, one behind the other. -/
def concat (ts : List (Sections String)) : Sections String := ts.foldr (· ++ ·) blank

@[simp] theorem concat_nil : concat [] = blank := rfl

@[simp] theorem concat_cons (t : Sections String) (ts : List (Sections String)) :
    concat (t :: ts) = t ++ concat ts := rfl

@[simp] theorem get_concat (ts : List (Sections String)) (k : Section) :
    (concat ts).get k = String.join (ts.map (·.get k)) := by
  induction ts with
  | nil => simp
  | cons t ts ih => simp [ih]

/-- A mark further on, by what some texts take up. -/
def behind (m : Mark) (a : Sections String) : Mark where
  attributes := a.attributes.utf8ByteSize + m.attributes
  uniforms := a.uniforms.utf8ByteSize + m.uniforms
  varyings := a.varyings.utf8ByteSize + m.varyings
  globals := a.globals.utf8ByteSize + m.globals
  body := a.body.utf8ByteSize + m.body

@[simp] theorem get_behind (m : Mark) (a : Sections String) (k : Section) :
    (behind m a).get k = (a.get k).utf8ByteSize + m.get k := by
  cases k <;> rfl

end Sections

namespace ShaderSource

/-- A source with further text in every section. -/
def extend (s : ShaderSource) (t : Sections String) : ShaderSource :=
  { s with sections := s.sections ++ t }

@[simp] theorem extend_blank (s : ShaderSource) : s.extend .blank = s := by
  simp [extend]

@[simp] theorem extend_extend (s : ShaderSource) (t u : Sections String) :
    (s.extend t).extend u = s.extend (t ++ u) := by
  simp [extend, Sections.append_assoc]

@[simp] theorem extend_sections (s : ShaderSource) (t : Sections String) :
    (s.extend t).sections = s.sections ++ t := rfl

theorem append_eq_extend (s : ShaderSource) (k : Section) (text : String) :
    s.append k text = s.extend (.only k text) := by
  simp only [append, extend]
  congr 1
  ext1 l
  rw [Sections.get_set, Sections.get_append, Sections.get_only]
  split <;> simp_all

theorem declare_eq_extend (s : ShaderSource) (q : Qualifier) (type : GlslType) (name : String) :
    s.declare q type name = s.extend (.only q.place (declaration q type name)) :=
  append_eq_extend s _ _

theorem addGlobal_eq_extend (s : ShaderSource) (text : String) :
    s.addGlobal text = s.extend (.only .globals (endLine text)) :=
  append_eq_extend s _ _

theorem addMain_eq_extend (s : ShaderSource) (text : String) :
    s.addMain text = s.extend (.only .body (endLine text)) :=
  append_eq_extend s _ _

/-! ## Rolling back -/

theorem utf8ByteSize_ofList_cons (c : Char) (cs : List Char) :
    (String.ofList (c :: cs)).utf8ByteSize = c.utf8Size + (String.ofList cs).utf8ByteSize := by
  have h : String.ofList (c :: cs) = String.singleton c ++ String.ofList cs := by
    apply String.toList_injective
    simp
  rw [h, String.utf8ByteSize_append, String.utf8ByteSize_singleton]

@[simp] theorem takeBytes_zero (cs : List Char) : takeBytes 0 cs = some [] := by
  cases cs <;> rfl

/-- **A cut behind a prefix** is a cut of what follows it. -/
theorem takeBytes_add (cs ds : List Char) (n : Nat) :
    takeBytes ((String.ofList cs).utf8ByteSize + n) (cs ++ ds)
      = (takeBytes n ds).map (cs ++ ·) := by
  induction cs with
  | nil => simp [String.ofList_nil]
  | cons c cs ih =>
    -- A character takes up bytes, so the cut does not fall before it.
    have hpos := c.utf8Size_pos
    rw [utf8ByteSize_ofList_cons, Nat.add_assoc, List.cons_append, takeBytes, if_neg (by omega),
      if_pos (by omega), Nat.add_sub_cancel_left, ih, Option.map_map]
    rfl

/-- A cut at the end of a prefix leaves the prefix. -/
theorem takeBytes_append (cs ds : List Char) :
    takeBytes (String.ofList cs).utf8ByteSize (cs ++ ds) = some cs := by
  have h := takeBytes_add cs ds 0
  simpa using h

/-- A cut leaves a beginning. -/
theorem takeBytes_prefix {n : Nat} {cs ds : List Char} (h : takeBytes n cs = some ds) :
    ds <+: cs := by
  induction cs generalizing n ds with
  | nil =>
    obtain rfl := Option.some.inj h
    exact List.prefix_rfl
  | cons c cs ih =>
    rw [takeBytes] at h
    split at h
    · obtain rfl := Option.some.inj h
      exact List.nil_prefix
    · split at h
      · obtain ⟨es, hes, rfl⟩ := Option.map_eq_some_iff.1 h
        exact (List.prefix_cons_inj c).2 (ih hes)
      · cases h

/-- Cutting some sections back to texts that they still begin with. -/
theorem cut_of_prefix (a : Sections String) (ks : List Section) (u : Sections String)
    (h : ∀ k, (a.get k).toList <+: (u.get k).toList) :
    ∃ v, cut (a.map String.utf8ByteSize) ks u = (v, none) ∧
      ∀ k, v.get k = if k ∈ ks then a.get k else u.get k := by
  induction ks generalizing u with
  | nil => exact ⟨u, rfl, by simp⟩
  | cons k ks ih =>
    obtain ⟨ds, hds⟩ := h k
    have htake : takeBytes (a.get k).utf8ByteSize (u.get k).toList = some (a.get k).toList := by
      have := takeBytes_append (a.get k).toList ds
      rwa [String.ofList_toList, hds] at this
    -- Cutting one section leaves the others as they were, so all still begin as they did.
    have hset : ∀ l, (a.get l).toList <+: ((u.set k (a.get k)).get l).toList := by
      intro l
      rw [Sections.get_set]
      split
      · rename_i hl
        exact hl ▸ List.prefix_rfl
      · exact h l
    obtain ⟨v, hv, hget⟩ := ih (u.set k (a.get k)) hset
    refine ⟨v, ?_, fun l => ?_⟩
    · rw [cut, Sections.get_map, htake]
      simpa only [String.ofList_toList] using hv
    · rw [hget l, Sections.get_set]
      by_cases hl : l = k
      · simp [hl]
      · simp [hl]

/-- **Rolling back to a state that the source has grown from** brings that
state back, whatever was added since. -/
theorem rollback_of_prefix (s : ShaderSource) (a : Sections String)
    (h : ∀ k, (a.get k).toList <+: (s.sections.get k).toList) :
    s.rollback (a.map String.utf8ByteSize) = ({ s with sections := a }, none) := by
  obtain ⟨v, hcut, hget⟩ := cut_of_prefix a Section.all s.sections h
  have hva : v = a := by
    ext1 k
    rw [hget k, if_pos (by cases k <;> decide)]
  rw [rollback, hcut, hva]

/-- Rolling back to where there was nothing leaves nothing. -/
theorem rollback_zero (s : ShaderSource) :
    s.rollback ⟨0, 0, 0, 0, 0⟩ = ({ s with sections := .blank }, none) :=
  rollback_of_prefix s .blank fun k => by
    rw [Sections.get_blank]
    exact List.nil_prefix

theorem rollback_mark_extend (s : ShaderSource) (t : Sections String) :
    (s.extend t).rollback s.mark = (s, none) :=
  rollback_of_prefix (s.extend t) s.sections fun k => by
    rw [extend_sections, Sections.get_append, String.toList_append]
    exact List.prefix_append _ _

/-! ## Rolling back what has grown -/

theorem mark_extend (s : ShaderSource) (t : Sections String) :
    (s.extend t).mark = (t.map String.utf8ByteSize).behind s.sections := by
  ext1 k
  simp [mark]

theorem cut_append (a : Sections String) (m : Mark) (ks : List Section) (t : Sections String) :
    cut (m.behind a) ks (a ++ t) = (a ++ (cut m ks t).1, (cut m ks t).2) := by
  induction ks generalizing t with
  | nil => rfl
  | cons k ks ih =>
    have htake := takeBytes_add (a.get k).toList (t.get k).toList (m.get k)
    rw [String.ofList_toList] at htake
    rw [cut, cut, Sections.get_behind, Sections.get_append, String.toList_append, htake]
    cases takeBytes (m.get k) (t.get k).toList with
    | none => rfl
    | some cs =>
      have hset : (a ++ t).set k (String.ofList ((a.get k).toList ++ cs))
          = a ++ t.set k (String.ofList cs) := by
        ext1 l
        simp only [Sections.get_set, Sections.get_append, String.ofList_append,
          String.ofList_toList]
        split
        · rename_i hl
          rw [hl]
        · rfl
      simp only [Option.map_some, hset, ih]

/-- **What a source has grown by** is rolled back as if it stood alone. -/
theorem rollback_extend (base s : ShaderSource) (m : Mark) :
    (base.extend s.sections).rollback (m.behind base.sections)
      = (base.extend (s.rollback m).1.sections, (s.rollback m).2) := by
  simp only [rollback, extend_sections, cut_append]
  rfl

/-- A rollback that faults does so inside a character. -/
theorem eq_splitCharacter_of_rollback {s : ShaderSource} {m : Mark} {fault : Fault}
    (h : (s.rollback m).2 = some fault) : fault = .splitCharacter := by
  have hcut : ∀ (ks : List Section) (t : Sections String), (cut m ks t).2 = some fault →
      fault = .splitCharacter := by
    intro ks
    induction ks with
    | nil => exact fun t h => nomatch h
    | cons k ks ih =>
      intro t h
      rw [cut] at h
      split at h
      · exact ih _ h
      · exact (Option.some.inj h).symm
  exact hcut Section.all s.sections h

/-- Rolling back leaves a beginning of every section. -/
theorem prefix_cut (m : Mark) (ks : List Section) (t : Sections String) (k : Section) :
    ((cut m ks t).1.get k).toList <+: (t.get k).toList := by
  induction ks generalizing t with
  | nil => exact List.prefix_rfl
  | cons l ks ih =>
    rw [cut]
    split
    · rename_i cs hcs
      refine (ih _).trans ?_
      rw [Sections.get_set]
      split
      · rename_i hk
        rw [hk, String.toList_ofList]
        exact takeBytes_prefix hcs
      · exact List.prefix_rfl
    · exact List.prefix_rfl

theorem rollback_empty {s : ShaderSource} {k : Section} (h : s.sections.get k = "") (m : Mark) :
    (s.rollback m).1.sections.get k = "" := by
  have hbegins := prefix_cut m Section.all s.sections k
  rw [h] at hbegins
  exact String.toList_eq_nil_iff.1 (List.prefix_nil.1 hbegins)

end ShaderSource

namespace Stages

/-- Both sources with further text. -/
def extend (s : Stages) (vertex fragment : Sections String) : Stages where
  vertex := s.vertex.extend vertex
  fragment := s.fragment.extend fragment

@[simp] theorem extend_vertex (s : Stages) (v f : Sections String) :
    (s.extend v f).vertex = s.vertex.extend v := rfl

@[simp] theorem extend_fragment (s : Stages) (v f : Sections String) :
    (s.extend v f).fragment = s.fragment.extend f := rfl

@[simp] theorem extend_blank (s : Stages) : s.extend .blank .blank = s := by
  simp [extend]

@[simp] theorem extend_extend (s : Stages) (v f v' f' : Sections String) :
    (s.extend v f).extend v' f' = s.extend (v ++ v') (f ++ f') := by
  simp [extend]

theorem addMain_eq_extend (s : Stages) (text : String) :
    s.addMain text = s.extend (.only .body (ShaderSource.endLine text))
      (.only .body (ShaderSource.endLine text)) := by
  simp only [addMain, both, extend, ShaderSource.addMain_eq_extend]

/-- Rolling both sources back faults, if at all, inside a character. -/
theorem eq_splitCharacter_of_rollback {s : Stages} {m : StageMarks} {fault : Fault}
    (h : (s.rollback m).2 = some fault) : fault = .splitCharacter := by
  simp only [rollback] at h
  split at h
  · rename_i hfault
    obtain rfl := Option.some.inj h
    exact ShaderSource.eq_splitCharacter_of_rollback (congrArg Prod.snd hfault)
  · exact ShaderSource.eq_splitCharacter_of_rollback h

/-- Whatever both sources have grown by since is rolled back. -/
theorem rollback_marks_extend (s : Stages) (v f : Sections String) :
    (s.extend v f).rollback s.marks = (s, none) := by
  simp only [rollback, marks, extend_vertex, extend_fragment, ShaderSource.rollback_mark_extend]

end Stages

end ParticleTimeline
