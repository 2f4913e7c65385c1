import Mathlib.Tactic.SplitIfs
import ParticleTimeline.Proofs.Json.Decoding
import ParticleTimeline.Proofs.Number.Text
import ParticleTimeline.Proofs.Timeline.Config
import ParticleTimeline.Timeline.Document
/-!
# Documents that are read back

What is printed for a document is read again member by member, so that only
the singles can get lost: a single that is not finite is written as null, and
null is no number (`Json.exists_reread_single`). The names of the members and
of the modes, the two stages of reading and the free-form configurations agree
with what is printed (`TimelineDocument.decode_render`). Hence a valid document
is read back if its singles are finite and refused otherwise
(`TimelineDocument.parse_render_eq`), supposed that finite numbers are read
back; if all its numbers are finite, it is read back
(`TimelineDocument.parse_render`).
-/

namespace ParticleTimeline

open Json (Reread RereadMembers)
open Json.Reader (skipBlanks)

/-! ## Numbers -/

namespace Json

/-- **A single is read back if it is finite**, else there is null in its
place, which no single is decoded from. -/
theorem exists_reread_single {x : Float32}
    (h : x.isFinite = true → (JsonNumber.single x).ReadsBack) :
    ∃ w, Reread 0 (.single x) w ∧ Decoder.single w
      = if x.isFinite then .ok x else .error (.wrongKind .null "f32") := by
  by_cases hfinite : x.isFinite = true
  · obtain ⟨m, hreread, hm⟩ := Option.map_eq_some_iff.1 (h hfinite)
    refine ⟨.number m, .number hreread, ?_⟩
    rw [if_pos hfinite, Decoder.single, hm]
  · refine ⟨.null, .absent (FloatText.json32_eq_null hfinite), ?_⟩
    rw [if_neg hfinite, Decoder.single]
    rintro n ⟨⟩

theorem reread_double {x : Float} (h : (JsonNumber.double x).ReadsBack) :
    Reread 0 (.double x) (.double x) :=
  .number h

theorem reread_word (n : UInt32) : Reread 0 (.word n) (.word n) := .natural _

end Json

/-! ## Modes -/

/-- A mode is decoded from its name, when no mode before it has the same. -/
theorem Mode.decode_toJson {α : Type} [Mode α] {m : α}
    (h : (Mode.all : List α).find? (fun m' => Mode.name m' = Mode.name m) = some m) :
    Mode.decode (Mode.toJson m) = .ok m := by
  simp only [decode, toJson, Json.Decoder.text, parse, h, bind, Except.bind, pure, Except.pure]

/-! ## Instances -/

namespace EffectInstance

/-- How deep the configuration of an instance may nest: an instance stands in
a track, among tracks, in a document. -/
def configDepth : Nat := Json.Reader.maxDepth - 5

/-- An instance that a text can hold: its window is finite, and its
configuration is free-form within what can be read. -/
structure Writable (i : EffectInstance) : Prop where
  timeBegin : i.timeBegin.isFinite = true
  timeEnd : i.timeEnd.isFinite = true
  config : i.config.FreeForm configDepth

/-- **An instance is decoded from what it is written as.** -/
theorem decode_toJson {i : EffectInstance} {k : Nat} (h : i.config.FreeForm k) :
    decode i.toJson = .ok i := by
  have hmembers : Json.Decoder.members fields setField [] unread
      [("effectId", .text i.effectId), ("timeBegin", .double i.timeBegin),
        ("timeEnd", .double i.timeEnd), ("repetitions", .word i.repetitions),
        ("config", i.config)] = .ok i := by
    simp [Json.Decoder.members, fields, setField, unread, Json.Decoder.text, Json.double,
      Json.Decoder.double, Json.decode_word, JsonNumber.toDouble, h.canonical_eq, bind,
      Except.bind, pure, Except.pure]
  simp only [decode, toJson, Json.Decoder.record, hmembers, bind, Except.bind, pure, Except.pure]
  simp [fields]

/-- The numbers in an instance are those of its window, its repetitions and
those of its configuration. -/
theorem mem_numbers {i : EffectInstance} {n : JsonNumber} :
    n ∈ i.toJson.numbers ↔ n = .double i.timeBegin ∨ n = .double i.timeEnd ∨
      n = .natural i.repetitions.toUInt64 ∨ n ∈ i.config.numbers := by
  simp [toJson, Json.double, Json.word, Json.numbers, Json.entryNumbers]

/-- **An instance is read back** with the numbers in it. -/
theorem Writable.reread {i : EffectInstance} (h : i.Writable)
    (hnumbers : ∀ n ∈ i.toJson.numbers, n.isFinite = true → n.ReadsBack) :
    Reread (configDepth + 1) i.toJson i.toJson := by
  refine .object (.cons ⟨rfl, ?_⟩ (.cons ⟨rfl, ?_⟩ (.cons ⟨rfl, ?_⟩ (.cons ⟨rfl, ?_⟩
    (.cons ⟨rfl, ?_⟩ .nil)))))
  · exact (Reread.text _).mono (Nat.zero_le _)
  · refine (Json.reread_double ?_).mono (Nat.zero_le _)
    exact hnumbers _ (mem_numbers.2 (.inl rfl)) h.timeBegin
  · refine (Json.reread_double ?_).mono (Nat.zero_le _)
    exact hnumbers _ (mem_numbers.2 (.inr (.inl rfl))) h.timeEnd
  · exact (Json.reread_word _).mono (Nat.zero_le _)
  · refine h.config.plain.reread fun n hn => ?_
    exact hnumbers n (mem_numbers.2 (.inr (.inr (.inr hn))))

end EffectInstance

/-! ## Timelines -/

namespace TimelineConfig

open EffectInstance (configDepth)

/-- The singles of a timeline. -/
def singles (c : TimelineConfig) : List Float32 := c.particleSize :: c.background.toList

variable {c : TimelineConfig}

theorem mem_numbers_instance {i : EffectInstance} (hi : i ∈ c.instances) {n : JsonNumber}
    (hn : n ∈ i.toJson.numbers) : n ∈ (Json.object c.members).numbers := by
  obtain ⟨t, ht, hi⟩ := List.mem_flatten.1 hi
  refine Json.mem_numbers_object.2 ⟨("tracks", _), List.mem_cons_self, ?_⟩
  refine Json.mem_numbers_array.2 ⟨_, List.mem_map_of_mem ht, ?_⟩
  exact Json.mem_numbers_array.2 ⟨_, List.mem_map_of_mem hi, hn⟩

theorem mem_numbers_single {x : Float32} (hx : x ∈ c.singles) :
    .single x ∈ (Json.object c.members).numbers := by
  rw [Json.mem_numbers_object]
  rcases List.mem_cons.1 hx with rfl | hx
  · exact ⟨("particleSize", .single c.particleSize), by simp [members], List.mem_cons_self⟩
  · refine ⟨("backgroundColor", .array (c.background.toList.map Json.single)),
      by simp [members], ?_⟩
    exact Json.mem_numbers_array.2 ⟨_, List.mem_map_of_mem hx, List.mem_cons_self⟩

/-- The members, with what is read for the singles in their places. -/
def membersReread (c : TimelineConfig) (size r g b : Json) : List (String × Json) :=
  [("tracks", .array (c.tracks.map fun t => .array (t.map EffectInstance.toJson))),
    ("particleGridWidth", .word c.gridWidth),
    ("particleGridHeight", .word c.gridHeight),
    ("particleSize", size),
    ("particleShape", Mode.toJson c.shape),
    ("particleFading", .bool c.fading),
    ("particleOverlap", Mode.toJson c.overlap),
    ("backgroundColor", .array [r, g, b]),
    ("accumulation", Mode.toJson c.accumulation),
    ("imageScaling", Mode.toJson c.scaling)]

theorem decode_membersReread {size r g b : Json} {m : Json.Mismatch}
    (hwritable : ∀ i ∈ c.instances, i.Writable)
    (hsize : Json.Decoder.single size
      = if c.particleSize.isFinite then .ok c.particleSize else .error m)
    (hcolour : Json.Decoder.triple Json.Decoder.single (.array [r, g, b])
      = if c.background.toList.all Float32.isFinite then .ok c.background else .error m) :
    Json.Decoder.members fields setField [] {} (c.membersReread size r g b)
      = if c.singles.all Float32.isFinite then .ok c else .error m := by
  have htracks : Json.Decoder.list (Json.Decoder.list EffectInstance.decode)
      (.array (c.tracks.map fun t => .array (t.map EffectInstance.toJson))) = .ok c.tracks := by
    refine Json.Decoder.list_map fun t ht => Json.Decoder.list_map fun i hi => ?_
    exact EffectInstance.decode_toJson (hwritable i (List.mem_flatten.2 ⟨t, ht, hi⟩)).config
  have hshape : Mode.decode (Mode.toJson c.shape) = .ok c.shape :=
    Mode.decode_toJson (by cases c.shape <;> rfl)
  have hoverlap : Mode.decode (Mode.toJson c.overlap) = .ok c.overlap :=
    Mode.decode_toJson (by cases c.overlap <;> rfl)
  have haccumulation : Mode.decode (Mode.toJson c.accumulation) = .ok c.accumulation :=
    Mode.decode_toJson (by cases c.accumulation <;> rfl)
  have hscaling : Mode.decode (Mode.toJson c.scaling) = .ok c.scaling :=
    Mode.decode_toJson (by cases c.scaling <;> rfl)
  rw [Json.Decoder.members_eq_foldlM _ (by simp [membersReread, fields]) (by simp [membersReread])]
  simp only [membersReread, List.foldlM_cons, List.foldlM_nil, setField, singles, List.all_cons]
  by_cases hfinite : c.particleSize.isFinite = true
  case neg =>
    simp [hfinite, htracks, Json.decode_word, hsize, bind, Except.bind, pure, Except.pure]
  case pos =>
    by_cases hall : c.background.toList.all Float32.isFinite = true
    case neg =>
      simp [hfinite, hall, htracks, Json.decode_word, hsize, hshape, hoverlap, hcolour,
        Json.Decoder.bool, bind, Except.bind, pure, Except.pure]
    case pos =>
      simp [hfinite, hall, htracks, Json.decode_word, hsize, hshape, hoverlap, hcolour,
        haccumulation, hscaling, Json.Decoder.bool, bind, Except.bind, pure, Except.pure]

/-- **The members of a timeline are read back**, except that a single which is
not finite is in the way. -/
theorem exists_reread_members (hwritable : ∀ i ∈ c.instances, i.Writable)
    (hnumbers : ∀ n ∈ (Json.object c.members).numbers, n.isFinite = true → n.ReadsBack) :
    ∃ ws, RereadMembers (configDepth + 3) c.members ws ∧
      Json.Decoder.members fields setField [] {} ws
        = if c.singles.all Float32.isFinite then .ok c else .error (.wrongKind .null "f32") := by
  have htracks : Reread (configDepth + 3)
      (.array (c.tracks.map fun t => .array (t.map EffectInstance.toJson)))
      (.array (c.tracks.map fun t => .array (t.map EffectInstance.toJson))) := by
    refine .array (List.forall₂_same.2 (List.forall_mem_map.2 fun t ht => ?_))
    refine .array (List.forall₂_same.2 (List.forall_mem_map.2 fun i hi => ?_))
    have hmem : i ∈ c.instances := List.mem_flatten.2 ⟨t, ht, hi⟩
    exact (hwritable i hmem).reread fun n hn => hnumbers n (mem_numbers_instance hmem hn)
  -- The four numbers of 32 bits are read as doubles, and may come back as null.
  have hsingle : ∀ x ∈ c.singles, x.isFinite = true → (JsonNumber.single x).ReadsBack :=
    fun x hx => hnumbers _ (mem_numbers_single hx)
  simp only [singles, Vec3.toList, List.forall_mem_cons] at hsingle
  obtain ⟨hsize, hred, hgreen, hblue, -⟩ := hsingle
  obtain ⟨size, hsize, hdsize⟩ := Json.exists_reread_single hsize
  obtain ⟨r, hred, hdred⟩ := Json.exists_reread_single hred
  obtain ⟨g, hgreen, hdgreen⟩ := Json.exists_reread_single hgreen
  obtain ⟨b, hblue, hdblue⟩ := Json.exists_reread_single hblue
  refine ⟨c.membersReread size r g b, ?_,
    decode_membersReread hwritable hdsize (Json.Decoder.triple_eq hdred hdgreen hdblue)⟩
  have hcolour : Reread 1 (.array (c.background.toList.map Json.single)) (.array [r, g, b]) :=
    .array (.cons hred (.cons hgreen (.cons hblue .nil)))
  have hbase : 0 ≤ configDepth + 3 := Nat.zero_le _
  have hmode : ∀ {α : Type} [Mode α] (m : α),
      Reread (configDepth + 3) (Mode.toJson m) (Mode.toJson m) :=
    fun m => (Reread.text (Mode.name m)).mono hbase
  exact .cons ⟨rfl, htracks⟩ (.cons ⟨rfl, (Json.reread_word _).mono hbase⟩
    (.cons ⟨rfl, (Json.reread_word _).mono hbase⟩ (.cons ⟨rfl, hsize.mono hbase⟩
    (.cons ⟨rfl, hmode _⟩ (.cons ⟨rfl, (Reread.bool _).mono hbase⟩ (.cons ⟨rfl, hmode _⟩
    (.cons ⟨rfl, hcolour.mono (by omega)⟩ (.cons ⟨rfl, hmode _⟩
    (.cons ⟨rfl, hmode _⟩ .nil)))))))))

end TimelineConfig

/-! ## Documents -/

namespace TimelineDocument

variable {k : Nat}

/-- The version is taken from a number. -/
theorem scanVersion_eq {cs rest : List Char} {n : JsonNumber} {v : UInt32}
    (hread : Json.Reader.value true (Json.Reader.maxDepth - 1) cs = .ok (.number n, rest))
    (hv : Json.Decoder.word (.number n) = .ok v) : scanVersion cs = .ok (v, rest) := by
  have hskip := Json.Reader.value_skipBlanks 126 cs
  have hhead : ∃ c cs', skipBlanks cs = c :: cs' ∧ c ≠ '[' ∧ c ≠ '\x7b' := by
    rcases Json.Reader.number_of_value hread with ⟨cs', hcs, -⟩ | ⟨c, cs', hcs, hdigit, -⟩
    · exact ⟨'-', cs', hcs, by decide, by decide⟩
    · refine ⟨c, cs', hcs, ?_, ?_⟩
      · rintro rfl
        cases hdigit
      · rintro rfl
        cases hdigit
  obtain ⟨c, cs', hcs, hbracket, hbrace⟩ := hhead
  rw [hcs] at hskip
  have hbehind : Json.Reader.value true (Json.Reader.maxDepth - 1) (c :: cs')
      = .ok (.number n, rest) := hskip.trans hread
  unfold scanVersion
  rw [hcs]
  split
  · rename_i heq
    exact absurd (List.cons.inj heq).1 hbracket
  · rename_i heq
    exact absurd (List.cons.inj heq).1 hbrace
  · simp only [hbehind, hv, bind, Except.bind, pure, Except.pure]

/-- The members behind the version are kept aside. -/
theorem visits_scanMember {es ws : List (String × Json)} (h : RereadMembers k es ws)
    (hk : k < Json.Reader.maxDepth - 1) (hnames : ∀ e ∈ es, e.1 ≠ "schemaVersion")
    (indent : Nat) (v : Option UInt32) (others : List (String × Json)) :
    Json.Visits scanMember indent ⟨v, others⟩ es ⟨v, ws.reverse ++ others⟩ := by
  induction h generalizing others with
  | nil => exact .nil _
  | @cons e w es ws hhead htail ih =>
    obtain ⟨name, value⟩ := e
    obtain ⟨rfl, hread⟩ := hhead
    rw [List.forall_mem_cons] at hnames
    rw [List.reverse_cons, List.append_assoc, List.singleton_append]
    refine .cons (fun rest hends => ?_) (ih hnames.2 (w :: others))
    rw [scanMember, if_neg hnames.1, hread.behind_blank hk indent hends]
    rfl

variable {d : TimelineDocument}

/-- **What is read for a document**: its version, and what is decoded from the
members that are read for those of the timeline. -/
theorem decode_render {ws : List (String × Json)} (h : RereadMembers k d.config.members ws)
    (hk : k < Json.Reader.maxDepth - 1) :
    decode d.render.toList = match decodeMembers ws with
      | .ok config => .ok ⟨d.version, config⟩
      | .error m => Json.Reader.failHere (unfit m) [] := by
  have hversion : ∀ rest, Json.Ends rest →
      scanMember {} "schemaVersion" (' ' :: ((Json.prettyAt 1 (.word d.version)).toList ++ rest))
        = .ok (⟨some d.version, []⟩, rest) := by
    intro rest hends
    have hread := (Json.reread_word d.version).behind_blank
      (show 0 < Json.Reader.maxDepth - 1 by decide) 1 hends
    simp [scanMember, scanVersion_eq hread (Json.decode_word _), bind, Except.bind, pure,
      Except.pure]
  have hnames : ∀ e ∈ d.config.members, e.1 ≠ "schemaVersion" := by
    simp [TimelineConfig.members]
  obtain ⟨body, hprinted, hmembers⟩ := Json.members_printed
    (.cons hversion (visits_scanMember h hk hnames 1 (some d.version) []))
  have htext : d.render.toList = '\x7b' :: body := hprinted
  have hbody := hmembers []
  rw [List.append_nil] at hbody
  rw [htext, decode, Json.Reader.skipBlanks_cons rfl]
  simp only [hbody, List.append_nil, List.reverse_reverse, bind, Except.bind]
  cases decodeMembers ws with
  | error m => rfl
  | ok config => rfl

theorem mem_numbers_of_config {n : JsonNumber}
    (h : n ∈ (Json.object d.config.members).numbers) : n ∈ d.toJson.numbers := by
  obtain ⟨e, he, h⟩ := Json.mem_numbers_object.1 h
  exact Json.mem_numbers_object.2 ⟨e, List.mem_cons_of_mem _ he, h⟩

/-- What is said where null stands for a single. -/
def nullForSingle : Json.Failure := ⟨unfit (.wrongKind .null "f32"), [], 0⟩

/-- **A document whose instances can be written is read back if its singles are
finite**, supposed that the finite numbers in it are; otherwise its text is
refused. -/
theorem parse_render_eq (hvalid : d.config.validate = .ok ())
    (hwritable : ∀ i ∈ d.config.instances, i.Writable)
    (hnumbers : ∀ n ∈ d.toJson.numbers, n.isFinite = true → n.ReadsBack) :
    parse d.render = if d.config.singles.all Float32.isFinite then .ok d
      else .error (.malformedDocument (nullForSingle.message d.render)) := by
  obtain ⟨ws, hreread, hdecode⟩ := TimelineConfig.exists_reread_members hwritable
    fun n hn => hnumbers n (mem_numbers_of_config hn)
  have hrender := decode_render hreread (by decide)
  have hmembers : decodeMembers ws = _ := hdecode
  rw [hmembers] at hrender
  by_cases hfinite : d.config.singles.all Float32.isFinite = true
  · rw [if_pos hfinite] at hrender ⊢
    simp only [parse, hrender, hvalid, bind, Except.bind, pure, Except.pure]
  · rw [if_neg hfinite] at hrender ⊢
    simp only [parse, hrender, Json.Reader.failHere, throw, throwThe, MonadExceptOf.throw]
    rfl

/-- **A document is read back.** Its instances may have any configuration that
can be read; supposed is that every finite number in it is read back. -/
theorem parse_render (d : TimelineDocument) (hvalid : d.config.validate = .ok ())
    (hconfig : ∀ i ∈ d.config.instances, i.config.FreeForm EffectInstance.configDepth)
    (hfinite : ∀ n ∈ d.toJson.numbers, n.isFinite = true)
    (hnumbers : ∀ n ∈ d.toJson.numbers, n.isFinite = true → n.ReadsBack) :
    parse d.render = .ok d := by
  have hwritable : ∀ i ∈ d.config.instances, i.Writable := by
    intro i hi
    have hin : ∀ n ∈ i.toJson.numbers, n.isFinite = true :=
      fun n hn => hfinite n (mem_numbers_of_config (TimelineConfig.mem_numbers_instance hi hn))
    exact ⟨hin (.double i.timeBegin) (EffectInstance.mem_numbers.2 (.inl rfl)),
      hin (.double i.timeEnd) (EffectInstance.mem_numbers.2 (.inr (.inl rfl))), hconfig i hi⟩
  have hsingles : d.config.singles.all Float32.isFinite = true := by
    refine List.all_eq_true.2 fun x hx => ?_
    exact hfinite (.single x) (mem_numbers_of_config (TimelineConfig.mem_numbers_single hx))
  rw [parse_render_eq hvalid hwritable hnumbers, if_pos hsingles]

/-- A document of a later version with every kind of value in it. -/
def assorted : TimelineDocument where
  version := 7
  config :=
    { tracks := [[{
          effectId := "wave \"\n", timeBegin := -0.0, timeEnd := 1.5e300, repetitions := 3,
          config := .null }],
        [], [{
          effectId := "", timeBegin := 0.1, timeEnd := 0.1,
          config := .object [("a", .array [.bool true, .text "\x01", .object []]),
            ("b", .number (.double 1e-7)), ("c", .number (.negative (-3)))] }]]
      particleSize := 0.1
      overlap := .alpha
      background := ⟨0.5, 1e-30, 3e38⟩
      accumulation := .smoothTrails }

theorem parse_render_assorted : parse assorted.render = .ok assorted := by
  refine parse_render assorted (by decide +kernel) ?_ (by decide +kernel) (by decide +kernel)
  simp only [assorted, TimelineConfig.instances, List.flatten_cons, List.flatten_nil,
    List.cons_append, List.nil_append, List.forall_mem_cons]
  refine ⟨⟨.null _, rfl⟩, ⟨.object ?_, rfl⟩, nofun⟩
  simp only [List.forall_mem_cons]
  refine ⟨.array ?_, .number _ (.double (by decide +kernel)),
    .number _ (.negative (by decide)), nofun⟩
  simp only [List.forall_mem_cons]
  exact ⟨.bool _ _, .text _ _, .object nofun, nofun⟩

end TimelineDocument

end ParticleTimeline
