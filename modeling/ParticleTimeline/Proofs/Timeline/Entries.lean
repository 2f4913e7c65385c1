import ParticleTimeline.Proofs.Json.Reading
import ParticleTimeline.Proofs.Json.Record
import ParticleTimeline.Timeline.Document
/-!
# What the entries of an object say of a document

A document is decoded in two stages: its version while the object is scanned, its
timeline from what has been kept aside. What a scan comes to can be said of the
entries it has passed (`TimelineDocument.Scan.of_eq_some_iff`), and so a text is
decoded to the document of which its entries say every member, wherever they stand
(`TimelineDocument.decode_eq_ok_iff`).
-/

namespace ParticleTimeline

open Json (Member Separate)

/-! ## Instances -/

namespace EffectInstance

/-- The members of an instance. -/
def record : List (Member EffectInstance) := [
  ⟨"effectId", String, Json.Decoder.text, effectId, fun i x => { i with effectId := x }⟩,
  ⟨"timeBegin", Float, Json.Decoder.double, timeBegin, fun i x => { i with timeBegin := x }⟩,
  ⟨"timeEnd", Float, Json.Decoder.double, timeEnd, fun i x => { i with timeEnd := x }⟩,
  ⟨"repetitions", UInt32, Json.Decoder.word, repetitions, fun i x => { i with repetitions := x }⟩,
  ⟨"config", Json, fun v => .ok v.canonical, config, fun i x => { i with config := x }⟩]

theorem separate : Separate record setField where
  distinct := by decide
  set_eq := by
    intro m hm i v
    simp only [record, List.mem_cons, List.not_mem_nil, or_false] at hm
    rcases hm with rfl | rfl | rfl | rfl | rfl <;> rfl
  get_set := by
    intro m hm i x
    simp only [record, List.mem_cons, List.not_mem_nil, or_false] at hm
    rcases hm with rfl | rfl | rfl | rfl | rfl <;> rfl
  get_set_ne := by
    intro m hm n hn hne i x
    simp only [record, List.mem_cons, List.not_mem_nil, or_false] at hm hn
    rcases hm with rfl | rfl | rfl | rfl | rfl <;> rcases hn with rfl | rfl | rfl | rfl | rfl <;>
      first | rfl | exact absurd rfl hne
  determined := by
    intro i j h
    simp only [record, List.forall_mem_cons, List.not_mem_nil, false_imp_iff, implies_true,
      and_true] at h
    obtain ⟨_, _, _, _, _⟩ := i
    obtain ⟨_, _, _, _, _⟩ := j
    obtain ⟨rfl, rfl, rfl, rfl, rfl⟩ := h
    rfl

end EffectInstance

/-! ## Timelines -/

namespace TimelineConfig

/-- The members of a timeline. -/
def record : List (Member TimelineConfig) := [
  ⟨"tracks", List Track, Json.Decoder.list (Json.Decoder.list EffectInstance.decode), tracks,
    fun c x => { c with tracks := x }⟩,
  ⟨"particleGridWidth", UInt32, Json.Decoder.word, gridWidth,
    fun c x => { c with gridWidth := x }⟩,
  ⟨"particleGridHeight", UInt32, Json.Decoder.word, gridHeight,
    fun c x => { c with gridHeight := x }⟩,
  ⟨"particleSize", Float32, Json.Decoder.single, particleSize,
    fun c x => { c with particleSize := x }⟩,
  ⟨"particleShape", ParticleShape, Mode.decode, shape, fun c x => { c with shape := x }⟩,
  ⟨"particleFading", Bool, Json.Decoder.bool, fading, fun c x => { c with fading := x }⟩,
  ⟨"particleOverlap", ParticleOverlap, Mode.decode, overlap, fun c x => { c with overlap := x }⟩,
  ⟨"backgroundColor", Vec3 Float32, Json.Decoder.triple Json.Decoder.single, background,
    fun c x => { c with background := x }⟩,
  ⟨"accumulation", AccumulationMode, Mode.decode, accumulation,
    fun c x => { c with accumulation := x }⟩,
  ⟨"imageScaling", ImageScaling, Mode.decode, scaling, fun c x => { c with scaling := x }⟩]

theorem separate : Separate record setField where
  distinct := by decide
  set_eq := by
    intro m hm c v
    simp only [record, List.mem_cons, List.not_mem_nil, or_false] at hm
    rcases hm with rfl | rfl | rfl | rfl | rfl | rfl | rfl | rfl | rfl | rfl <;> rfl
  get_set := by
    intro m hm c x
    simp only [record, List.mem_cons, List.not_mem_nil, or_false] at hm
    rcases hm with rfl | rfl | rfl | rfl | rfl | rfl | rfl | rfl | rfl | rfl <;> rfl
  get_set_ne := by
    intro m hm n hn hne c x
    simp only [record, List.mem_cons, List.not_mem_nil, or_false] at hm hn
    rcases hm with rfl | rfl | rfl | rfl | rfl | rfl | rfl | rfl | rfl | rfl <;>
      rcases hn with rfl | rfl | rfl | rfl | rfl | rfl | rfl | rfl | rfl | rfl <;>
      first | rfl | exact absurd rfl hne
  determined := by
    intro c c' h
    simp only [record, List.forall_mem_cons, List.not_mem_nil, false_imp_iff, implies_true,
      and_true] at h
    obtain ⟨_, _, _, _, _, _, _, _, _, _⟩ := c
    obtain ⟨_, _, _, _, _, _, _, _, _, _⟩ := c'
    obtain ⟨rfl, rfl, rfl, rfl, rfl, rfl, rfl, rfl, rfl, rfl⟩ := h
    rfl

end TimelineConfig

/-! ## Documents -/

namespace TimelineDocument

open Json (Decoder Reader)
open Json.Reader (ok_of_bind bind_eq_ok_iff skipBlanks takeMember)

/-- The version among the entries of a document. -/
def versionMember : Member UInt32 := ⟨"schemaVersion", UInt32, Decoder.word, id, fun _ n => n⟩

/-- A document is what the entries of an object say. -/
structure Reads (d : TimelineDocument) (es : List (String × Json)) : Prop where
  version : versionMember.Reads schemaVersion d.version es
  config : ∀ m ∈ TimelineConfig.record, m.Reads {} d.config es

theorem reads_congr {d : TimelineDocument} {es fs : List (String × Json)}
    (hversion : versionMember.Reads schemaVersion d.version es ↔
      versionMember.Reads schemaVersion d.version fs)
    (hconfig : ∀ m ∈ TimelineConfig.record, m.Reads {} d.config es ↔ m.Reads {} d.config fs) :
    d.Reads es ↔ d.Reads fs := by
  constructor
  · rintro ⟨hv, hc⟩
    exact ⟨hversion.1 hv, fun m hm => (hconfig m hm).1 (hc m hm)⟩
  · rintro ⟨hv, hc⟩
    exact ⟨hversion.2 hv, fun m hm => (hconfig m hm).2 (hc m hm)⟩

/-! ### What has been scanned -/

namespace Scan

/-- What a scan comes to with one member more, if the member is as it should be. -/
def take (s : Scan) (name : String) (v : Json) : Option Scan :=
  if name = "schemaVersion" then
    if s.version.isSome then none
    else (Decoder.word v).toOption.map fun n => { s with version := some n }
  else some { s with others := (name, v) :: s.others }

/-- What a scan has come to behind some entries, the latest first. -/
def of : List (String × Json) → Option Scan
  | [] => some {}
  | (name, v) :: es => (of es).bind fun s => s.take name v

theorem take_version {s t : Scan} {v : Json} : s.take "schemaVersion" v = some t ↔
    s.version = none ∧ ∃ n, Decoder.word v = .ok n ∧ t = { s with version := some n } := by
  rw [take, if_pos rfl]
  cases s.version with
  | some n => simp
  | none =>
    cases Decoder.word v with
    | error e => simp [Except.toOption]
    | ok n => simp [Except.toOption, eq_comm]

theorem take_other {s t : Scan} {name : String} (h : name ≠ "schemaVersion") {v : Json} :
    s.take name v = some t ↔ t = { s with others := (name, v) :: s.others } := by
  rw [take, if_neg h, Option.some.injEq, eq_comm]

/-- **What a scan has come to** says what the version is, and has the entries
that are not about it. -/
theorem of_eq_some_iff {s : Scan} {es : List (String × Json)} : of es = some s ↔
    versionMember.Reads schemaVersion (s.version.getD schemaVersion) es ∧
      (s.version = none ↔ "schemaVersion" ∉ es.map Prod.fst) ∧
      s.others = es.filter fun e => e.1 ≠ "schemaVersion" := by
  induction es generalizing s with
  | nil =>
    obtain ⟨version, others⟩ := s
    rw [Member.reads_of_notMem List.not_mem_nil, of, Option.some.injEq, Scan.mk.injEq]
    constructor
    · rintro ⟨rfl, rfl⟩
      exact ⟨rfl, ⟨fun _ => List.not_mem_nil, fun _ => rfl⟩, rfl⟩
    · rintro ⟨-, hversion, hothers⟩
      exact ⟨(hversion.2 List.not_mem_nil).symm, hothers.symm⟩
  | cons e es ih =>
    obtain ⟨name, v⟩ := e
    simp only [of, Option.bind_eq_some_iff, ih]
    -- A version in front is the only one there is; what stands behind has none.
    by_cases hname : name = "schemaVersion"
    · subst hname
      have hself : versionMember.name = "schemaVersion" := rfl
      simp only [take_version]
      rw [← hself, Member.reads_cons_self, hself, List.filter_cons_of_neg (by simp)]
      constructor
      · rintro ⟨t, ⟨-, hnone, hothers⟩, hversion, n, hword, rfl⟩
        exact ⟨⟨hnone.1 hversion, hword⟩, ⟨nofun, fun h => absurd List.mem_cons_self h⟩, hothers⟩
      · rintro ⟨⟨hout, hword⟩, hnone, hothers⟩
        obtain ⟨n, hn⟩ : ∃ n, s.version = some n :=
          Option.ne_none_iff_exists'.1 fun h => hnone.1 h List.mem_cons_self
        obtain ⟨version, others⟩ := s
        obtain rfl : version = some n := hn
        refine ⟨⟨none, others⟩, ⟨?_, ⟨fun _ => hout, fun _ => rfl⟩, hothers⟩, rfl, n, hword, rfl⟩
        exact (Member.reads_of_notMem hout).2 rfl
    · have hmem : "schemaVersion" ∈ ((name, v) :: es).map Prod.fst ↔
          "schemaVersion" ∈ es.map Prod.fst := by
        rw [List.map_cons, List.mem_cons, or_iff_right (Ne.symm hname)]
      simp only [take_other hname]
      rw [Member.reads_cons_ne hname, hmem, List.filter_cons_of_pos (by simpa using hname)]
      constructor
      · rintro ⟨t, ⟨hreads, hnone, hothers⟩, rfl⟩
        exact ⟨hreads, hnone, congrArg (_ :: ·) hothers⟩
      · rintro ⟨hreads, hnone, hothers⟩
        refine ⟨⟨s.version, es.filter fun e => e.1 ≠ "schemaVersion"⟩, ⟨hreads, hnone, rfl⟩, ?_⟩
        obtain ⟨version, others⟩ := s
        exact congrArg (Scan.mk version) hothers

end Scan

/-- **The version is decoded where it stands** as it would be behind the value. -/
theorem scanVersion_eq_ok_iff {cs rest : List Char} {n : UInt32} :
    scanVersion cs = .ok (n, rest) ↔
      ∃ v, Reader.value true (Reader.maxDepth - 1) cs = .ok (v, rest) ∧ Decoder.word v = .ok n := by
  have hblanks : ∀ left, skipBlanks cs = left →
      Reader.value true (Reader.maxDepth - 1) left
        = Reader.value true (Reader.maxDepth - 1) cs := by
    rintro left rfl
    exact Reader.value_skipBlanks _ cs
  unfold scanVersion
  split
  -- Of an array or an object the first character says enough: it is no number.
  · rename_i left hskip
    refine ⟨nofun, ?_⟩
    rintro ⟨v, hread, hword⟩
    rw [← hblanks _ hskip] at hread
    obtain ⟨items, rfl, -⟩ := Reader.value_array_eq_ok_iff.1 hread
    cases hword
  · rename_i left hskip
    refine ⟨nofun, ?_⟩
    rintro ⟨v, hread, hword⟩
    rw [← hblanks _ hskip] at hread
    obtain ⟨entries, rfl, -⟩ := Reader.value_object_eq_ok_iff.1 hread
    cases hword
  · rw [hblanks _ rfl]
    constructor
    · intro h
      obtain ⟨⟨v, left⟩, hread, h⟩ := ok_of_bind h
      dsimp only at h
      split at h
      · rename_i m hword
        obtain ⟨rfl, rfl⟩ := Prod.mk.inj (Except.ok.inj h)
        exact ⟨v, hread, hword⟩
      · cases h
    · rintro ⟨v, hread, hword⟩
      refine bind_eq_ok_iff.2 ⟨(v, rest), hread, ?_⟩
      simp only [hword]
      rfl

/-- **One member is scanned** as it would be taken from a value. -/
theorem scanMember_eq_ok_iff {s t : Scan} {name : String} {cs rest : List Char} :
    scanMember s name cs = .ok (t, rest) ↔
      ∃ v, Reader.value true (Reader.maxDepth - 1) cs = .ok (v, rest) ∧ s.take name v = some t := by
  unfold scanMember
  by_cases hname : name = "schemaVersion"
  · subst hname
    simp only [Scan.take_version, if_true]
    cases hversion : s.version with
    | some n => simp [Json.Reader.failHere]
    | none =>
      simp only [Option.isSome_none, Bool.false_eq_true, if_false, true_and]
      constructor
      · intro h
        obtain ⟨⟨n, left⟩, hscan, h⟩ := ok_of_bind h
        obtain ⟨rfl, rfl⟩ := Prod.mk.inj (Except.ok.inj h)
        obtain ⟨v, hread, hword⟩ := scanVersion_eq_ok_iff.1 hscan
        exact ⟨v, hread, n, hword, rfl⟩
      · rintro ⟨v, hread, n, hword, rfl⟩
        exact bind_eq_ok_iff.2 ⟨_, scanVersion_eq_ok_iff.2 ⟨v, hread, hword⟩, rfl⟩
  · simp only [Scan.take_other hname, if_neg hname]
    constructor
    · intro h
      obtain ⟨⟨v, left⟩, hread, h⟩ := ok_of_bind h
      obtain ⟨rfl, rfl⟩ := Prod.mk.inj (Except.ok.inj h)
      exact ⟨v, hread, rfl⟩
    · rintro ⟨v, hread, rfl⟩
      exact bind_eq_ok_iff.2 ⟨_, hread, rfl⟩

/-- **The object of a document** is scanned as it would be read, and then looked
through. -/
theorem scan_eq_ok_iff {s : Scan} {cs rest : List Char} :
    Reader.members true scanMember {} cs = .ok (s, rest) ↔
      ∃ es, Reader.members true (takeMember (Reader.maxDepth - 1)) [] cs = .ok (es, rest) ∧
        Scan.of es = some s := by
  refine Reader.membersSteps_eq_ok_iff (f := Scan.of) ?_ ?_ rfl
  · intro s es name cs t rest hs
    rw [scanMember_eq_ok_iff]
    constructor
    · rintro ⟨v, hread, htake⟩
      exact ⟨(name, v) :: es, bind_eq_ok_iff.2 ⟨_, hread, rfl⟩, by rw [Scan.of, hs]; exact htake⟩
    · rintro ⟨_, hwhole, htake⟩
      obtain ⟨⟨v, left⟩, hread, h⟩ := ok_of_bind hwhole
      obtain ⟨rfl, rfl⟩ := Prod.mk.inj (Except.ok.inj h)
      rw [Scan.of, hs] at htake
      exact ⟨v, hread, htake⟩
  · intro es name cs fs rest hnone hread
    obtain ⟨⟨v, left⟩, -, h⟩ := ok_of_bind hread
    obtain ⟨rfl, -⟩ := Prod.mk.inj (Except.ok.inj h)
    rw [Scan.of, hnone]
    rfl

/-- No member of the timeline is called like the version. -/
theorem name_ne_version : ∀ m ∈ TimelineConfig.record, m.name ≠ "schemaVersion" := by
  have hnames : "schemaVersion" ∉ TimelineConfig.record.map Member.name := by decide
  intro m hm heq
  exact hnames (heq ▸ List.mem_map_of_mem hm)

/-- The timeline is decoded from what has been kept aside. -/
theorem decodeMembers_others {es : List (String × Json)} {c : TimelineConfig} :
    decodeMembers (es.filter fun e => e.1 ≠ "schemaVersion").reverse = .ok c ↔
      ∀ m ∈ TimelineConfig.record, m.Reads {} c es := by
  refine (Decoder.members_eq_ok_iff TimelineConfig.separate).trans (forall₂_congr fun m hm => ?_)
  rw [Member.reads_perm (List.reverse_perm _), Member.reads_filter]
  intro e _ he heq
  exact name_ne_version m hm (heq.symm.trans (by simpa using he))

/-- **What the entries say** is found by the scan, and in what it has kept aside. -/
theorem reads_reverse_iff {d : TimelineDocument} {es : List (String × Json)} :
    d.Reads es.reverse ↔ ∃ s, Scan.of es = some s ∧
      d.version = s.version.getD schemaVersion ∧ decodeMembers s.others.reverse = .ok d.config := by
  have hperm : es.reverse.Perm es := List.reverse_perm es
  constructor
  · rintro ⟨hversion, hconfig⟩
    rw [Member.reads_perm hperm] at hversion
    have hothers := decodeMembers_others.2 fun m hm => (hconfig m hm).perm hperm
    by_cases hin : "schemaVersion" ∈ es.map Prod.fst
    · refine ⟨⟨some d.version, _⟩, Scan.of_eq_some_iff.2 ⟨hversion, ?_, rfl⟩, rfl, hothers⟩
      exact ⟨nofun, fun hout => absurd hin hout⟩
    · have hdefault : d.version = schemaVersion := hversion.leftOut hin
      rw [hdefault] at hversion ⊢
      exact ⟨⟨none, _⟩, Scan.of_eq_some_iff.2 ⟨hversion, iff_of_true rfl hin, rfl⟩, rfl, hothers⟩
  · rintro ⟨s, hs, hversion, hconfig⟩
    obtain ⟨hreads, -, hothers⟩ := Scan.of_eq_some_iff.1 hs
    rw [hothers, decodeMembers_others] at hconfig
    refine ⟨?_, fun m hm => (hconfig m hm).perm hperm.symm⟩
    rw [hversion]
    exact hreads.perm hperm.symm

/-- **What is decoded from a text** is what the entries of its object say. -/
theorem decode_eq_ok_iff {cs : List Char} {d : TimelineDocument} :
    decode cs = .ok d ↔ ∃ es, Reader.whole cs = .ok (.object es) ∧ d.Reads es := by
  have hblanks : ∀ left, skipBlanks cs = left →
      Reader.value true Reader.maxDepth left = Reader.value true Reader.maxDepth cs := by
    rintro left rfl
    exact Reader.value_skipBlanks _ cs
  simp only [Reader.whole_eq_ok_iff]
  unfold decode
  split
  · rename_i left hskip
    rw [← hblanks _ hskip]
    constructor
    · intro h
      -- The scan gathers the entries the last first.
      obtain ⟨⟨s, rest⟩, hscan, h⟩ := ok_of_bind h
      obtain ⟨es, hread, hs⟩ := scan_eq_ok_iff.1 hscan
      dsimp only at h
      split at h
      · rename_i config hconfig
        obtain ⟨⟨⟩, hend, h⟩ := ok_of_bind h
        obtain rfl := Except.ok.inj h
        refine ⟨es.reverse, ⟨rest, Reader.value_object_eq_ok_iff.2 ⟨_, rfl, ?_⟩, hend⟩,
          reads_reverse_iff.2 ⟨s, hs, rfl, hconfig⟩⟩
        rw [List.reverse_reverse]
        exact hread
      · cases h
    · rintro ⟨es, ⟨rest, hread, hend⟩, hreads⟩
      obtain ⟨es', heq, hread⟩ := Reader.value_object_eq_ok_iff.1 hread
      obtain rfl := Json.object.inj heq
      rw [← List.reverse_reverse es, reads_reverse_iff] at hreads
      obtain ⟨s, hs, hversion, hconfig⟩ := hreads
      refine bind_eq_ok_iff.2 ⟨_, scan_eq_ok_iff.2 ⟨_, hread, hs⟩, ?_⟩
      simp only [hconfig]
      refine bind_eq_ok_iff.2 ⟨_, hend, ?_⟩
      rw [← hversion]
      rfl
  · rename_i left hskip
    -- An array is no document, and what begins like one does not read as an object.
    refine ⟨nofun, ?_⟩
    rintro ⟨es, ⟨rest, hread, -⟩, -⟩
    rw [← hblanks _ hskip] at hread
    obtain ⟨items, heq, -⟩ := Reader.value_array_eq_ok_iff.1 hread
    cases heq
  -- What is no object is read to its end, and then refused.
  · rename_i hbrace hbracket
    constructor
    · intro h
      obtain ⟨read, -, h⟩ := ok_of_bind h
      cases h
    · rintro ⟨es, ⟨rest, hread, -⟩, -⟩
      rcases Reader.value_cases hread with hv | ⟨b, hv⟩ | ⟨t, hv⟩ | ⟨n, cs', hv, -⟩ |
        ⟨n, c, cs', hv, -⟩ | ⟨d, items, cs', -, hv, -⟩ | ⟨d, entries, cs', -, -, hskip, -⟩
      · cases hv
      · cases hv
      · cases hv
      · cases hv
      · cases hv
      · cases hv
      · exact absurd hskip (hbrace cs')

end TimelineDocument

end ParticleTimeline
