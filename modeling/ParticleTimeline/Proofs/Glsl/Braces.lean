import ParticleTimeline.Proofs.Glsl.Binding
import ParticleTimeline.Proofs.Number.Text
/-!
# Balanced braces

A text is balanced when it closes as many braces as it opens, and never more
than it has opened by then. Reading a text from left to right, one follows
how many braces are open (`Braces.depth`); a balanced text is one that leads
from none to none (`balanced_iff`), and then from any number to the same
number. So balanced texts may stand behind one another, and one may stand
between a pair of braces.
-/

namespace ParticleTimeline

/-- A text without braces. -/
def Braceless (text : String) : Prop := ∀ c ∈ text.toList, c ≠ '\x7b' ∧ c ≠ '\x7d'

/-- Whether none of some characters is a brace. -/
def Braces.absent (cs : List Char) : Bool := cs.all fun c => c != '\x7b' && c != '\x7d'

theorem braceless_iff {text : String} : Braceless text ↔ Braces.absent text.toList = true := by
  simp [Braceless, Braces.absent]

instance (text : String) : Decidable (Braceless text) := decidable_of_iff _ braceless_iff.symm

/-- A text whose braces are closed, none before it was opened. -/
structure Balanced (text : String) : Prop where
  prefixes : ∀ read, read <+: text.toList → read.count '\x7d' ≤ read.count '\x7b'
  whole : text.toList.count '\x7d' = text.toList.count '\x7b'

namespace Braces

/-- How many braces are open behind one more character. -/
def step (n : Nat) (c : Char) : Option Nat :=
  if c = '\x7b' then some (n + 1)
  else if c = '\x7d' then if n = 0 then none else some (n - 1)
  else some n

/-- How many braces are open behind some characters, if none is closed that
is not open. -/
def depth (n : Nat) (cs : List Char) : Option Nat := cs.foldlM step n

variable {n m k : Nat} {c : Char} {cs ds : List Char}

theorem depth_append (n : Nat) (cs ds : List Char) :
    depth n (cs ++ ds) = (depth n cs).bind (depth · ds) := List.foldlM_append

theorem depth_cons_eq_some_iff :
    depth n (c :: cs) = some m ↔ ∃ l, step n c = some l ∧ depth l cs = some m := by
  rw [depth, List.foldlM_cons]
  exact Option.bind_eq_some_iff

/-- How many braces a character opens. -/
def opens (c : Char) : Nat := if c = '\x7b' then 1 else 0

/-- How many braces a character closes. -/
def closes (c : Char) : Nat := if c = '\x7d' then 1 else 0

theorem count_opening (c : Char) (cs : List Char) :
    (c :: cs).count '\x7b' = opens c + cs.count '\x7b' := by
  simp [List.count_cons, opens, Nat.add_comm]

theorem count_closing (c : Char) (cs : List Char) :
    (c :: cs).count '\x7d' = closes c + cs.count '\x7d' := by
  simp [List.count_cons, closes, Nat.add_comm]

theorem opens_or_closes (c : Char) : opens c = 0 ∨ closes c = 0 := by
  by_cases hopens : c = '\x7b'
  · simp [closes, hopens]
  · simp [opens, hopens]

theorem step_eq_some_iff :
    step n c = some m ↔ closes c ≤ n ∧ closes c + m = n + opens c := by
  unfold step opens closes
  by_cases hopens : c = '\x7b'
  · simp [hopens]
    omega
  · by_cases hcloses : c = '\x7d'
    · by_cases hn : n = 0
      · simp [hcloses, hn]
      · simp [hcloses, hn]
        omega
    · simp [hopens, hcloses]
      omega

/-- What is counted on the way says what is open in the end. -/
theorem depth_eq_some_iff : depth n cs = some m ↔
    (∀ read, read <+: cs → read.count '\x7d' ≤ n + read.count '\x7b') ∧
      cs.count '\x7d' + m = n + cs.count '\x7b' := by
  induction cs generalizing n with
  | nil =>
    have hwalk : depth n [] = some m ↔ n = m := by simp [depth]
    rw [hwalk]
    simp
    omega
  | cons c cs ih =>
    rw [depth_cons_eq_some_iff, count_opening, count_closing]
    constructor
    · rintro ⟨l, hstep, hrest⟩
      obtain ⟨hle, hl⟩ := step_eq_some_iff.1 hstep
      obtain ⟨hprefixes, hwhole⟩ := ih.1 hrest
      refine ⟨fun read hread => ?_, by omega⟩
      cases read with
      | nil => simp
      | cons d read =>
        obtain ⟨rfl, htail⟩ := List.cons_prefix_cons.1 hread
        have hbelow := hprefixes read htail
        rw [count_opening, count_closing]
        omega
    · rintro ⟨hprefixes, hwhole⟩
      -- The first character alone is a prefix, and does not open and close at once.
      have hfirst := hprefixes [c] (List.prefix_append [c] cs)
      rw [count_opening, count_closing] at hfirst
      simp only [List.count_nil] at hfirst
      have honce := opens_or_closes c
      refine ⟨n + opens c - closes c, step_eq_some_iff.2 ⟨by omega, by omega⟩,
        ih.2 ⟨fun read hread => ?_, by omega⟩⟩
      have hbelow := hprefixes (c :: read) (List.cons_prefix_cons.2 ⟨rfl, hread⟩)
      rw [count_opening, count_closing] at hbelow
      omega

/-- Braces that are open before stay open. -/
theorem depth_add (h : depth n cs = some m) (k : Nat) : depth (n + k) cs = some (m + k) := by
  obtain ⟨hprefixes, hwhole⟩ := depth_eq_some_iff.1 h
  refine depth_eq_some_iff.2 ⟨fun read hread => ?_, by omega⟩
  have hbelow := hprefixes read hread
  omega

theorem depth_of_braceless {text : String} (h : Braceless text) (n : Nat) :
    depth n text.toList = some n := by
  have hopens : text.toList.count '\x7b' = 0 :=
    List.count_eq_zero.2 fun hin => (h _ hin).1 rfl
  have hcloses : text.toList.count '\x7d' = 0 :=
    List.count_eq_zero.2 fun hin => (h _ hin).2 rfl
  refine depth_eq_some_iff.2 ⟨fun read hread => ?_, by omega⟩
  have hless := hread.sublist.count_le '\x7d'
  omega

/-- The characters of a text as it is written out; following all of them is
quicker than following the text. -/
theorem depth_ofList (h : depth n cs = some m) : depth n (String.ofList cs).toList = some m := by
  rwa [String.toList_ofList]

end Braces

/-! ## Balanced texts -/

open Braces

theorem balanced_iff {text : String} : Balanced text ↔ depth 0 text.toList = some 0 := by
  rw [depth_eq_some_iff]
  constructor
  · intro h
    exact ⟨fun read hread => by simpa using h.prefixes read hread, by simpa using h.whole⟩
  · rintro ⟨hprefixes, hwhole⟩
    exact ⟨fun read hread => by simpa using hprefixes read hread, by simpa using hwhole⟩

instance (text : String) : Decidable (Balanced text) := decidable_of_iff _ balanced_iff.symm

@[simp] theorem braceless_append {text text' : String} :
    Braceless (text ++ text') ↔ Braceless text ∧ Braceless text' := by
  simp only [Braceless, String.toList_append, List.forall_mem_append]

theorem Braceless.balanced {text : String} (h : Braceless text) : Balanced text :=
  balanced_iff.2 (depth_of_braceless h 0)

theorem Balanced.depth {text : String} (h : Balanced text) (n : Nat) :
    Braces.depth n text.toList = some n := by
  have hdeeper := depth_add (balanced_iff.1 h) n
  rwa [Nat.zero_add] at hdeeper

theorem Balanced.append {text text' : String} (h : Balanced text) (h' : Balanced text') :
    Balanced (text ++ text') := by
  rw [balanced_iff, String.toList_append, depth_append, h.depth]
  exact h'.depth 0

/-- **Balanced text may stand behind open braces**, whatever closes them. -/
theorem Balanced.enclosed {text opening closing : String} {n : Nat} (h : Balanced text)
    (hopening : Braces.depth 0 opening.toList = some n)
    (hclosing : Braces.depth n closing.toList = some 0) :
    Balanced (opening ++ text ++ closing) := by
  rw [balanced_iff, String.toList_append, String.toList_append, depth_append, depth_append,
    hopening, Option.bind_some, h.depth, Option.bind_some, hclosing]

theorem Balanced.join {texts : List String} (h : ∀ text ∈ texts, Balanced text) :
    Balanced (String.join texts) := by
  induction texts with
  | nil => exact Braceless.balanced (by simp [Braceless])
  | cons text texts ih =>
    rw [String.join_cons]
    exact (h text List.mem_cons_self).append
      (ih fun text' hin => h text' (List.mem_cons_of_mem _ hin))

theorem Braceless.join {texts : List String} (h : ∀ text ∈ texts, Braceless text) :
    Braceless (String.join texts) := by
  induction texts with
  | nil => simp [Braceless]
  | cons text texts ih =>
    rw [String.join_cons, braceless_append]
    exact ⟨h text List.mem_cons_self, ih fun text' hin => h text' (List.mem_cons_of_mem _ hin)⟩

/-- Ending a line opens and closes nothing. -/
theorem balanced_endLine {text : String} :
    Balanced (ShaderSource.endLine text) ↔ Balanced text := by
  unfold ShaderSource.endLine
  split
  · rfl
  · rw [balanced_iff, balanced_iff, String.toList_append, depth_append]
    have hline : ∀ n, Braces.depth n "\n".toList = some n := depth_of_braceless (by decide)
    cases Braces.depth 0 text.toList with
    | none => rfl
    | some n => rw [Option.bind_some, hline]

/-! ## Texts without braces -/

/-- As for `Braces.depth_ofList`, the characters are checked one by one. -/
theorem braceless_ofList {cs : List Char} (h : Braces.absent cs = true) :
    Braceless (String.ofList cs) := by
  rwa [braceless_iff, String.toList_ofList]

theorem FloatText.Spelled.braceless {text : String} (h : Spelled text) : Braceless text := by
  intro c hc
  have hglyph := h c hc
  refine ⟨?_, ?_⟩
  · rintro rfl
    exact absurd hglyph (by decide)
  · rintro rfl
    exact absurd hglyph (by decide)

theorem braceless_identifier {name : String} (h : Braceless name) (n : Nat) :
    Braceless (identifier (some n) name) := by
  have hnumber := (FloatText.spelled_natural n).braceless
  simp only [identifier, braceless_append, h, hnumber, and_true, true_and]
  decide

theorem braceless_declaration {name : String} (h : Braceless name) (q : Qualifier)
    (type : GlslType) : Braceless (ShaderSource.declaration q type name) := by
  have hqualifier : Braceless q.name := by cases q <;> decide
  have htype : Braceless type.name := by cases type <;> decide
  simp only [ShaderSource.declaration, braceless_append, h, hqualifier, htype, and_true, true_and]
  decide

theorem braceless_declarations {α : Type} {es : List (String × Entry α)}
    (h : ∀ name ∈ Table.names es, Braceless name) (q : Qualifier) :
    Braceless (Allocator.declarations q es) := by
  refine Braceless.join fun line hline => ?_
  obtain ⟨e, he, rfl⟩ := List.mem_map.1 hline
  exact braceless_declaration (h e.1 (List.mem_map_of_mem he)) q e.2.type

/-! ## Sections and sources -/

namespace Sections

/-- Balanced text in every section. -/
def Balanced (t : Sections String) : Prop := ∀ k, ParticleTimeline.Balanced (t.get k)

variable {t u : Sections String}

theorem balanced_blank : Balanced blank := by
  intro k
  rw [get_blank]
  decide

theorem balanced_only {text : String} (h : ParticleTimeline.Balanced text) (k : Section) :
    Balanced (only k text) := by
  intro l
  rw [get_only]
  split
  · exact h
  · decide

theorem Balanced.append (h : Balanced t) (h' : Balanced u) : Balanced (t ++ u) := by
  intro k
  rw [get_append]
  exact (h k).append (h' k)

theorem balanced_concat {ts : List (Sections String)} (h : ∀ t ∈ ts, Balanced t) :
    Balanced (concat ts) := by
  induction ts with
  | nil => exact balanced_blank
  | cons t ts ih =>
    rw [concat_cons]
    exact (h t List.mem_cons_self).append (ih fun u hu => h u (List.mem_cons_of_mem _ hu))

end Sections

/-- **Balanced sections make a balanced source.** -/
theorem ShaderSource.balanced_compile {s : ShaderSource} (h : s.sections.Balanced) :
    Balanced s.compile := by
  have hpreamble : Balanced (preamble s.stage) := by
    cases s.stage with
    | vertex => decide
    | fragment => decide
  have hopening : Braces.depth 0 "void main() \x7b\n".toList = some 1 :=
    Braces.depth_ofList (by decide)
  have hclosing : Braces.depth 1 "\x7d\n".toList = some 0 := Braces.depth_ofList (by decide)
  have hdeclarations := (((hpreamble.append (h .attributes)).append (h .uniforms)).append
    (h .varyings)).append (h .globals)
  have hmain := (h .body).enclosed hopening hclosing
  have hcompile : s.compile = preamble s.stage ++ s.sections.get .attributes
      ++ s.sections.get .uniforms ++ s.sections.get .varyings ++ s.sections.get .globals
      ++ ("void main() \x7b\n" ++ s.sections.get .body ++ "\x7d\n") := by
    simp only [compile, Sections.get, String.append_assoc]
  rw [hcompile]
  exact hdeclarations.append hmain

end ParticleTimeline
